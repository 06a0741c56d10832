import FrameMarkers.Proofs.Identifier.Pool

namespace FrameMarkers.NamePool

-- Counting up from the number, the name is the first free one.
inductive Counts (pool : NamePool) (proposed : String) : Nat → String → Prop where
  | free {number : Nat} (free : pool.contains (numbered proposed number) = false) :
      Counts pool proposed number (numbered proposed number)
  | taken {number : Nat} {name : String}
      (taken : pool.contains (numbered proposed number) = true)
      (later : Counts pool proposed (number + 1) name) : Counts pool proposed number name

variable {pool : NamePool} {proposed : String}

theorem Counts.of_isLeast {number start : Nat} (h : IsLeast (pool.freeNumbers proposed) number)
    (hone : 1 ≤ start) (hle : start ≤ number) :
    pool.Counts proposed start (numbered proposed number) := by
  induction hle using Nat.decreasingInduction with
  | self => exact .free h.1.2
  | of_succ start hlt ih =>
      refine .taken (eq_true_of_ne_false fun hfree => ?_) (ih (Nat.le_succ_of_le hone))
      exact Nat.not_le_of_lt hlt (h.2 ⟨hone, hfree⟩)

inductive Call where
  | reserve (name : String)
  | contains (name : String)
  | allocate (proposed : String)
deriving DecidableEq, Repr

inductive Answer where
  | reserved (free : Bool)
  | contained (used : Bool)
  | allocated (name : String)
deriving DecidableEq, Repr

-- The answer to a call, and the pool after it.
def answer (pool : NamePool) : Call → Answer × NamePool
  | .reserve name => (.reserved (pool.reserve name).1, (pool.reserve name).2)
  | .contains name => (.contained (pool.contains name), pool)
  | .allocate proposed => (.allocated (pool.allocate proposed).1, (pool.allocate proposed).2)

-- The answers to calls in turn, and the pool after them.
def answerAll (pool : NamePool) : List Call → List Answer × NamePool
  | [] => ([], pool)
  | call :: rest =>
    let (answer, next) := pool.answer call
    let (answers, last) := next.answerAll rest
    (answer :: answers, last)

-- The names that were handed out.
def allocated (answers : List Answer) : List String :=
  answers.filterMap fun
    | .allocated name => some name
    | _ => none

-- The name is the one to hand out: the proposed one, or if that is in use, the one with the least
-- free number, to which counting up leads.
structure Hands (pool : NamePool) (proposed name : String) : Prop where
  same : pool.contains proposed = false → name = proposed
  least : pool.contains proposed = true →
    ∃ number, IsLeast (pool.freeNumbers proposed) number ∧ name = numbered proposed number
  ends : pool.contains proposed = true → pool.Counts proposed 1 name

theorem hands_fresh (pool : NamePool) (proposed : String) :
    pool.Hands proposed (pool.fresh proposed) := by
  obtain ⟨number, hleast, hname⟩ := pool.exists_isLeast_firstFree proposed
  have hfresh (h : pool.contains proposed = true) :
      pool.fresh proposed = numbered proposed number := by
    rw [fresh, if_pos h, hname]
  refine ⟨fun h => ?_, fun h => ⟨number, hleast, hfresh h⟩, fun h => ?_⟩
  · rw [fresh, if_neg (ne_true_of_eq_false h)]
  · rw [hfresh h]
    exact .of_isLeast hleast (Nat.le_refl 1) hleast.1.1

theorem answerAll_cons (call : Call) (rest : List Call) :
    pool.answerAll (call :: rest) =
      ((pool.answer call).1 :: ((pool.answer call).2.answerAll rest).1,
        ((pool.answer call).2.answerAll rest).2) := rfl

theorem answerAll_append (first second : List Call) :
    pool.answerAll (first ++ second) =
      ((pool.answerAll first).1 ++ ((pool.answerAll first).2.answerAll second).1,
        ((pool.answerAll first).2.answerAll second).2) := by
  induction first generalizing pool with
  | nil => rfl
  | cons call rest ih => simp only [List.cons_append, answerAll_cons, ih]

theorem length_answerAll (pool : NamePool) (calls : List Call) :
    (pool.answerAll calls).1.length = calls.length := by
  induction calls generalizing pool with
  | nil => rfl
  | cons call rest ih => rw [answerAll_cons, List.length_cons, ih, List.length_cons]

-- A call puts the name in use that it reserves or hands out, and no other.
theorem contains_answer (call : Call) (name : String) :
    (pool.answer call).2.contains name ↔
      pool.contains name ∨ call = .reserve name ∨ (pool.answer call).1 = .allocated name := by
  have hinsert (added : String) :
      (pool.insert added).contains name ↔ pool.contains name ∨ added = name := by
    rw [contains_insert, or_comm, eq_comm (a := name)]
  cases call with
  | reserve other =>
      change (pool.insert other).contains name ↔ _
      rw [hinsert]
      simp [answer]
  | contains other => simp [answer]
  | allocate proposed =>
      change (pool.insert (pool.fresh proposed)).contains name ↔ _
      rw [hinsert]
      simp [answer, allocate]

theorem contains_answerAll (calls : List Call) (name : String) :
    (pool.answerAll calls).2.contains name ↔
      pool.contains name ∨ .reserve name ∈ calls ∨ .allocated name ∈ (pool.answerAll calls).1 := by
  induction calls generalizing pool with
  | nil => simp [answerAll]
  | cons call rest ih =>
      rw [answerAll_cons]
      dsimp only
      rw [ih, contains_answer, List.mem_cons, List.mem_cons, eq_comm (b := call),
        eq_comm (b := (pool.answer call).1)]
      tauto

theorem mem_allocated {answers : List Answer} {name : String} :
    name ∈ allocated answers ↔ .allocated name ∈ answers := by
  rw [allocated, List.mem_filterMap]
  constructor
  · rintro ⟨answer, hm, hname⟩
    cases answer <;> cases hname
    exact hm
  · exact fun hm => ⟨_, hm, rfl⟩

-- A name that is handed out was free until then, and is in use ever after.
theorem nodup_allocated (pool : NamePool) (calls : List Call) :
    (allocated (pool.answerAll calls).1).Nodup ∧
      ∀ name ∈ allocated (pool.answerAll calls).1, pool.contains name = false := by
  induction calls generalizing pool with
  | nil => exact ⟨List.nodup_nil, fun _ hm => absurd hm List.not_mem_nil⟩
  | cons call rest ih =>
      obtain ⟨hnodup, hunused⟩ := ih (pool.answer call).2
      have hfree : ∀ name ∈ allocated ((pool.answer call).2.answerAll rest).1,
          pool.contains name = false := by
        intro name hm
        refine eq_false_of_ne_true fun hused => ?_
        have hlater := (contains_answer call name).mpr (.inl hused)
        rw [hunused name hm] at hlater
        contradiction
      cases call with
      | reserve other => exact ⟨hnodup, hfree⟩
      | contains other => exact ⟨hnodup, hfree⟩
      | allocate proposed =>
          refine ⟨List.nodup_cons.mpr ⟨fun hm => ?_, hnodup⟩, fun name hm => ?_⟩
          · have hused := (contains_insert pool (pool.fresh proposed) _).mpr (.inl rfl)
            exact ne_true_of_eq_false (hunused _ hm) hused
          · rcases List.mem_cons.mp hm with rfl | hm
            · exact pool.fresh_free proposed
            · exact hfree name hm

-- A pool that is made with the seeds in use.
def answers (seeds : List String) (calls : List Call) : List Answer :=
  ((ofList seeds).answerAll calls).1

def poolAfter (seeds : List String) (calls : List Call) : NamePool :=
  ((ofList seeds).answerAll calls).2

theorem contains_poolAfter (seeds : List String) (calls : List Call) (name : String) :
    (poolAfter seeds calls).contains name ↔
      name ∈ seeds ∨ .reserve name ∈ calls ∨ name ∈ allocated (answers seeds calls) := by
  rw [poolAfter, contains_answerAll, mem_allocated, contains, List.contains_iff_mem]
  rfl

theorem answers_allocate (seeds : List String) (earlier later : List Call) (proposed : String) :
    (answers seeds (earlier ++ .allocate proposed :: later))[earlier.length]? =
      some (.allocated ((poolAfter seeds earlier).fresh proposed)) := by
  rw [answers, answerAll_append, ← length_answerAll (ofList seeds) earlier,
    List.getElem?_append_right (Nat.le_refl _), Nat.sub_self]
  rfl

theorem poolAfter_allocate (seeds : List String) (earlier : List Call) (proposed : String) :
    poolAfter seeds (earlier ++ [.allocate proposed]) =
      (poolAfter seeds earlier).insert ((poolAfter seeds earlier).fresh proposed) := by
  rw [poolAfter, answerAll_append]
  rfl

theorem allocates_least (seeds : List String) (calls : List Call) :
    (allocated (answers seeds calls)).Nodup ∧
      (∀ name ∈ allocated (answers seeds calls), name ∉ seeds) ∧
      ∀ earlier proposed later, calls = earlier ++ .allocate proposed :: later →
        ∃ name, (answers seeds calls)[earlier.length]? = some (.allocated name) ∧
          (poolAfter seeds earlier).Hands proposed name ∧
          name ∉ seeds ∧ .reserve name ∉ earlier ∧ name ∉ allocated (answers seeds earlier) ∧
          (∀ other, (poolAfter seeds earlier).contains other ↔ other ∈ seeds ∨
            .reserve other ∈ earlier ∨ other ∈ allocated (answers seeds earlier)) ∧
          ∀ other, (poolAfter seeds (earlier ++ [.allocate proposed])).contains other ↔
            other = name ∨ (poolAfter seeds earlier).contains other := by
  obtain ⟨hnodup, hfree⟩ := nodup_allocated (ofList seeds) calls
  refine ⟨hnodup, fun name hm hseed => ?_, ?_⟩
  · exact ne_true_of_eq_false (hfree name hm) (List.contains_iff_mem.mpr hseed)
  · rintro earlier proposed later rfl
    have hunused := (poolAfter seeds earlier).fresh_free proposed
    have hnew := mt (contains_poolAfter seeds earlier _).mpr (ne_true_of_eq_false hunused)
    push Not at hnew
    refine ⟨_, answers_allocate seeds earlier later proposed, hands_fresh _ proposed, hnew.1,
      hnew.2.1, hnew.2.2, contains_poolAfter seeds earlier, fun other => ?_⟩
    rw [poolAfter_allocate, contains_insert]

-- A name that a number would make is reserved in between, and another one asked for.
def typeCalls : List Call :=
  [.allocate "Type", .reserve "Type2", .contains "Type3", .allocate "Type"]

theorem allocates_least_type :
    (answers ["Type"] typeCalls)[3]? = some (.allocated "Type3") ∧
      (poolAfter ["Type"] (typeCalls.take 3)).Hands "Type" "Type3" := by
  have hthird : (answers ["Type"] typeCalls)[3]? = some (.allocated "Type3") := by decide +kernel
  obtain ⟨-, -, hcalls⟩ := allocates_least ["Type"] typeCalls
  obtain ⟨name, hanswer, hhands, -⟩ := hcalls (typeCalls.take 3) "Type" [] rfl
  cases hthird.symm.trans hanswer
  exact ⟨hthird, hhands⟩

end FrameMarkers.NamePool
