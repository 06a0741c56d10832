import FrameMarkers.Json.Reader
import FrameMarkers.Proofs.Json.Spelling

namespace FrameMarkers.Json

namespace Source

mutual

def tokens : Source → List Token
  | .null => [.scalar .null]
  | .bool value => [.scalar (.bool value)]
  | .number literal numeral => [.scalar (.number literal numeral)]
  | .string body => [.string body]
  | .array [] => [.mark '[', .mark ']']
  | .array (item :: rest) => .mark '[' :: (tokens item ++ laterItems rest)
  | .object [] => [.mark '\x7b', .mark '\x7d']
  | .object ((name, value) :: rest) =>
    .mark '\x7b' :: .string name :: .mark ':' :: (tokens value ++ laterMembers rest)

-- What comes after an item of an array, and after a member of an object.
def laterItems : List Source → List Token
  | [] => [.mark ']']
  | item :: rest => .mark ',' :: (tokens item ++ laterItems rest)

def laterMembers : List (List Char × Source) → List Token
  | [] => [.mark '\x7d']
  | (name, value) :: rest =>
    .mark ',' :: .string name :: .mark ':' :: (tokens value ++ laterMembers rest)

end

-- A value may be the first item of an array, since no value starts with the end of one.
theorem foldlM_itemOrEnd (source : Source) (inside : List Enclosing) (rest : List Token) :
    (source.tokens ++ rest).foldlM Due.step (.itemOrEnd inside) =
      (source.tokens ++ rest).foldlM Due.step (.document (.array [] :: inside)) := by
  cases source with
  | null | bool | number | string => rfl
  | array items => cases items <;> rfl
  | object members => cases members <;> rfl

theorem foldlM_cons {due next : Due} {token : Token} (h : Due.step due token = some next)
    (rest : List Token) : (token :: rest).foldlM Due.step due = rest.foldlM Due.step next := by
  rw [List.foldlM_cons, h]
  rfl

theorem foldlM_append {due next : Due} {tokens : List Token}
    (h : tokens.foldlM Due.step due = some next) (rest : List Token) :
    (tokens ++ rest).foldlM Due.step due = rest.foldlM Due.step next := by
  rw [List.foldlM_append, h]
  rfl

mutual

theorem foldlM_tokens : (source : Source) → (inside : List Enclosing) →
    source.tokens.foldlM Due.step (.document inside) = some (.next source inside)
  | .null, _ => rfl
  | .bool _, _ => rfl
  | .number _ _, _ => rfl
  | .string _, _ => rfl
  | .array [], _ => rfl
  | .array (item :: rest), inside => by
      have hopen : Due.step (.document inside) (.mark '[') = some (.itemOrEnd inside) := rfl
      rw [tokens, foldlM_cons hopen, foldlM_itemOrEnd, foldlM_append (foldlM_tokens item _),
        foldlM_laterItems rest]
      rfl
  | .object [], _ => rfl
  | .object ((name, value) :: rest), inside => by
      have hopen : Due.step (.document inside) (.mark '\x7b') = some (.nameOrEnd inside) := rfl
      have hname : Due.step (.nameOrEnd inside) (.string name) = some (.colon [] name inside) := rfl
      have hcolon : Due.step (.colon [] name inside) (.mark ':') =
          some (.document (.object [] name :: inside)) := rfl
      rw [tokens, foldlM_cons hopen, foldlM_cons hname, foldlM_cons hcolon,
        foldlM_append (foldlM_tokens value _), foldlM_laterMembers rest]
      rfl

theorem foldlM_laterItems : (rest : List Source) → (item : Source) → (read : List Source) →
    (inside : List Enclosing) →
      (laterItems rest).foldlM Due.step (.next item (.array read :: inside)) =
        some (.next (.array (read.reverse ++ item :: rest)) inside)
  | [], item, read, inside => by
      have hend : Due.step (.next item (.array read :: inside)) (.mark ']') =
          some (.next (.array (item :: read).reverse) inside) := rfl
      rw [laterItems, foldlM_cons hend, List.reverse_cons]
      rfl
  | next :: rest, item, read, inside => by
      have hcomma : Due.step (.next item (.array read :: inside)) (.mark ',') =
          some (.document (.array (item :: read) :: inside)) := rfl
      rw [laterItems, foldlM_cons hcomma, foldlM_append (foldlM_tokens next _),
        foldlM_laterItems rest, List.reverse_cons, List.append_assoc]
      rfl

theorem foldlM_laterMembers : (rest : List (List Char × Source)) → (name : List Char) →
    (value : Source) → (read : List (List Char × Source)) → (inside : List Enclosing) →
      (laterMembers rest).foldlM Due.step (.next value (.object read name :: inside)) =
        some (.next (.object (read.reverse ++ (name, value) :: rest)) inside)
  | [], name, value, read, inside => by
      have hend : Due.step (.next value (.object read name :: inside)) (.mark '\x7d') =
          some (.next (.object ((name, value) :: read).reverse) inside) := rfl
      rw [laterMembers, foldlM_cons hend, List.reverse_cons]
      rfl
  | (other, next) :: rest, name, value, read, inside => by
      have hcomma : Due.step (.next value (.object read name :: inside)) (.mark ',') =
          some (.key ((name, value) :: read) inside) := rfl
      have hname : Due.step (.key ((name, value) :: read) inside) (.string other) =
          some (.colon ((name, value) :: read) other inside) := rfl
      have hcolon : Due.step (.colon ((name, value) :: read) other inside) (.mark ':') =
          some (.document (.object ((name, value) :: read) other :: inside)) := rfl
      rw [laterMembers, foldlM_cons hcomma, foldlM_cons hname, foldlM_cons hcolon,
        foldlM_append (foldlM_tokens next _), foldlM_laterMembers rest, List.reverse_cons,
        List.append_assoc]
      rfl

end

-- Every source is put together again from its tokens.
theorem ofTokens_tokens (source : Source) : ofTokens source.tokens = some source := by
  rw [ofTokens, foldlM_tokens]
  rfl

end Source

-- How a document is spelled when it is printed.
mutual

def source : Json → Source
  | .null => .null
  | .bool value => .bool value
  | .number literal =>
    .number literal ((Numeral.ofWord? literal.toList).getD ⟨[], [], 0⟩)
  | .string text => .string (text.toList.flatMap escapeChar)
  | .array items => .array (sourceItems items)
  | .object members => .object (sourceMembers members)

def sourceItems : List Json → List Source
  | [] => []
  | item :: rest => source item :: sourceItems rest

def sourceMembers : List (String × Json) → List (List Char × Source)
  | [] => []
  | (name, value) :: rest =>
    (name.toList.flatMap escapeChar, source value) :: sourceMembers rest

end

-- How many arrays and objects stand inside each other.
mutual

def depth : Json → Nat
  | .null | .bool _ | .number _ | .string _ => 0
  | .array items => depthItems items + 1
  | .object members => depthMembers members + 1

def depthItems : List Json → Nat
  | [] => 0
  | item :: rest => max (depth item) (depthItems rest)

def depthMembers : List (String × Json) → Nat
  | [] => 0
  | (_, value) :: rest => max (depth value) (depthMembers rest)

end

-- All members are selected, and the numbers lie in the range of double precision.
inductive Fits {α : Type} (selection : Selection α) : α → Json → Prop where
  | null {part : α} : Fits selection part .null
  | bool {part : α} {value : Bool} : Fits selection part (.bool value)
  | number {part : α} {literal : String} {numeral : Numeral} :
      Numeral.ofWord? literal.toList = some numeral → numeral.isFinite = true →
        Fits selection part (.number literal)
  | string {part : α} {text : String} : Fits selection part (.string text)
  | array {part : α} {items : List Json} :
      (∀ place item, items[place]? = some item → Fits selection (selection.item part place) item) →
        Fits selection part (.array items)
  | object {part : α} {members : List (String × Json)} :
      (∀ name value, (name, value) ∈ members → (selection.member part name).isSome) →
      (∀ name value inner, (name, value) ∈ members → selection.member part name = some inner →
        Fits selection inner value) → Fits selection part (.object members)

open Token (Scans Ends)

-- The text of items or members after the first one.
def later (texts : List String) : List Char :=
  texts.flatMap fun text => ',' :: text.toList

theorem toList_intercalate_cons (text : String) (texts : List String) :
    (",".intercalate (text :: texts)).toList = text.toList ++ later texts := by
  induction texts generalizing text with
  | nil => simp [later]
  | cons next rest ih =>
      rw [String.intercalate_cons_cons, String.toList_append, String.toList_append, ih,
        List.append_assoc]
      rfl

theorem ends_mark {c : Char} (h : c ∈ Token.marks) (rest : List Char) : Ends (c :: rest) := by
  rintro _ ⟨⟩
  exact h

theorem ends_later (texts : List String) {c : Char} (h : c ∈ Token.marks) (rest : List Char) :
    Ends (later texts ++ c :: rest) := by
  cases texts with
  | nil => exact ends_mark h rest
  | cons text texts => exact ends_mark (by decide) _

variable {α : Type} {selection : Selection α}

mutual

theorem scans_render : {part : α} → (json : Json) → Fits selection part json →
    Scans json.render.toList json.source.tokens
  | _, .null, _ => Token.scans_word (by decide) rfl
  | _, .bool true, _ => Token.scans_word (by decide) rfl
  | _, .bool false, _ => Token.scans_word (by decide) rfl
  | _, .number literal, .number hnumeral _ => by
      rw [render, source, hnumeral]
      exact Token.scans_word (Token.isWord_of_numeral hnumeral) (Token.word?_of_numeral hnumeral)
  | _, .string text, _ => fun rest _ => Token.scanFrom_quote text rest
  | _, .array [], _ => by
      intro after _
      have htext : (array []).render.toList ++ after = '[' :: ']' :: after := rfl
      rw [htext, Token.scanFrom_mark (by decide), Token.scanFrom_mark (by decide), Option.map_map]
      rfl
  | _, .array (item :: rest), .array h => by
      intro after _
      have htext : (array (item :: rest)).render.toList ++ after =
          '[' :: (item.render.toList ++ (later (renderItems rest) ++ ']' :: after)) := by
        rw [render, renderItems, String.toList_append, String.toList_append,
          toList_intercalate_cons]
        simp
      have hitem := scans_render item (h 0 item rfl) _
        (ends_later (renderItems rest) (by decide : ']' ∈ Token.marks) after)
      have hrest := scans_renderItems rest fun other ho =>
        let ⟨place, hp⟩ := List.mem_iff_getElem?.mp ho
        ⟨_, h (place + 1) other hp⟩
      rw [htext, Token.scanFrom_mark (by decide), hitem, hrest, Option.map_map, Option.map_map]
      simp [source, sourceItems, Source.tokens, Function.comp_def]
  | _, .object [], _ => by
      intro after _
      have htext : (object []).render.toList ++ after = '\x7b' :: '\x7d' :: after := rfl
      rw [htext, Token.scanFrom_mark (by decide), Token.scanFrom_mark (by decide), Option.map_map]
      rfl
  | _, .object ((name, value) :: rest), .object hm h => by
      intro after _
      have htext : (object ((name, value) :: rest)).render.toList ++ after =
          '\x7b' :: ((quote name).toList ++ ':' :: (value.render.toList ++
            (later (renderMembers rest) ++ '\x7d' :: after))) := by
        rw [render, renderMembers, String.toList_append, String.toList_append,
          toList_intercalate_cons]
        simp
      have hmember : (name, value) ∈ (name, value) :: rest := List.mem_cons_self
      obtain ⟨inner, hinner⟩ := Option.isSome_iff_exists.mp (hm name value hmember)
      have hvalue := scans_render value (h name value inner hmember hinner) _
        (ends_later (renderMembers rest) (by decide : '\x7d' ∈ Token.marks) after)
      have hrest := scans_renderMembers rest fun other next ho =>
        have hmem : (other, next) ∈ (name, value) :: rest := List.mem_cons_of_mem _ ho
        let ⟨part, hp⟩ := Option.isSome_iff_exists.mp (hm other next hmem)
        ⟨part, h other next part hmem hp⟩
      rw [htext, Token.scanFrom_mark (by decide), Token.scanFrom_quote,
        Token.scanFrom_mark (by decide), hvalue, hrest]
      simp [source, sourceMembers, Source.tokens, Function.comp_def]

theorem scans_renderItems : (items : List Json) →
    (∀ item ∈ items, ∃ part, Fits selection part item) → (after : List Char) →
      Token.scanFrom .between (later (renderItems items) ++ ']' :: after) =
        (Token.scanFrom .between after).map (Source.laterItems (sourceItems items) ++ ·)
  | [], _, after => Token.scanFrom_mark (by decide) after
  | item :: rest, h, after => by
      obtain ⟨⟨part, hpart⟩, hothers⟩ := List.forall_mem_cons.mp h
      have htext : later (renderItems (item :: rest)) ++ ']' :: after =
          ',' :: (item.render.toList ++ (later (renderItems rest) ++ ']' :: after)) := by
        simp [later, renderItems]
      have hitem := scans_render item hpart _
        (ends_later (renderItems rest) (by decide : ']' ∈ Token.marks) after)
      rw [htext, Token.scanFrom_mark (by decide), hitem, scans_renderItems rest hothers]
      simp [sourceItems, Source.laterItems, Function.comp_def]

theorem scans_renderMembers : (members : List (String × Json)) →
    (∀ name value, (name, value) ∈ members → ∃ part, Fits selection part value) →
      (after : List Char) →
      Token.scanFrom .between (later (renderMembers members) ++ '\x7d' :: after) =
        (Token.scanFrom .between after).map (Source.laterMembers (sourceMembers members) ++ ·)
  | [], _, after => Token.scanFrom_mark (by decide) after
  | (name, value) :: rest, h, after => by
      obtain ⟨part, hpart⟩ := h name value List.mem_cons_self
      have htext : later (renderMembers ((name, value) :: rest)) ++ '\x7d' :: after =
          ',' :: ((quote name).toList ++ ':' :: (value.render.toList ++
            (later (renderMembers rest) ++ '\x7d' :: after))) := by
        simp [later, renderMembers]
      have hvalue := scans_render value hpart _
        (ends_later (renderMembers rest) (by decide : '\x7d' ∈ Token.marks) after)
      have hrest := scans_renderMembers rest fun other next ho =>
        h other next (List.mem_cons_of_mem _ ho)
      rw [htext, Token.scanFrom_mark (by decide), Token.scanFrom_quote,
        Token.scanFrom_mark (by decide), hvalue, hrest]
      simp [sourceMembers, Source.laterMembers, Function.comp_def]

end

theorem text?_flatMap (text : String) :
    Quoted.text? (text.toList.flatMap escapeChar) = some text := by
  rw [Quoted.text?, unescape_flatMap, Option.map_some, String.ofList_toList]

section

variable {β γ δ : Type}

-- What encloses something needs room for itself.
theorem if_room (size room : Nat) (value : β) (f : β → γ) :
    (if room = 0 then none else (if size ≤ room - 1 then some value else none).map f) =
      if size + 1 ≤ room then some (f value) else none := by
  cases room with
  | zero => rfl
  | succ room =>
      simp only [Nat.succ_ne_zero, if_false, Nat.add_sub_cancel, Nat.add_le_add_iff_right]
      split <;> rfl

theorem if_max (size others room : Nat) (first : β) (rest : γ) (f : β → γ → δ) :
    ((if size ≤ room then some first else none) >>= fun first =>
        (if others ≤ room then some rest else none).map (f first)) =
      if max size others ≤ room then some (f first rest) else none := by
  simp only [Nat.max_le]
  by_cases hfirst : size ≤ room <;> by_cases hrest : others ≤ room <;> simp [hfirst, hrest]

end

mutual

theorem select_source : {part : α} → (json : Json) → Fits selection part json → (room : Nat) →
    json.source.select selection part room = if json.depth ≤ room then some json else none
  | _, .null, _, _ => rfl
  | _, .bool _, _, _ => rfl
  | _, .number literal, .number hnumeral hfinite, _ => by
      rw [source, hnumeral, Option.getD_some, Source.select, if_pos hfinite]
      rfl
  | _, .string text, _, _ => by
      rw [source, Source.select, text?_flatMap]
      rfl
  | part, .array items, .array h, room => by
      have hitems := selectItems_source items part 0 (room - 1) (by simpa using h)
      rw [source, Source.select, hitems, if_room]
      rfl
  | part, .object members, .object hm h, room => by
      have hmembers := selectMembers_source members part (room - 1) hm h
      rw [source, Source.select, hmembers, if_room]
      rfl

theorem selectItems_source : (items : List Json) → (part : α) → (place room : Nat) →
    (∀ next item, items[next]? = some item →
      Fits selection (selection.item part (place + next)) item) →
      Source.selectItems selection part room place (sourceItems items) =
        if depthItems items ≤ room then some items else none
  | [], _, _, _, _ => rfl
  | item :: rest, part, place, room, h => by
      have hitem := select_source item (h 0 item rfl) room
      rw [Nat.add_zero] at hitem
      have hrest := selectItems_source rest part (place + 1) room fun next other ho => by
        rw [Nat.add_assoc, Nat.add_comm 1]
        exact h (next + 1) other ho
      rw [sourceItems, Source.selectItems, hitem, hrest]
      exact if_max _ _ room item rest List.cons

theorem selectMembers_source : (members : List (String × Json)) → (part : α) → (room : Nat) →
    (∀ name value, (name, value) ∈ members → (selection.member part name).isSome) →
    (∀ name value inner, (name, value) ∈ members → selection.member part name = some inner →
        Fits selection inner value) →
      Source.selectMembers selection part room (sourceMembers members) =
        if depthMembers members ≤ room then some members else none
  | [], _, _, _, _ => rfl
  | (name, value) :: rest, part, room, hm, h => by
      obtain ⟨inner, hinner⟩ := Option.isSome_iff_exists.mp (hm name value List.mem_cons_self)
      have hvalue := select_source value (h name value inner List.mem_cons_self hinner) room
      have hrest := selectMembers_source rest part room
        (fun other next ho => hm other next (List.mem_cons_of_mem _ ho))
        fun other next inner ho => h other next inner (List.mem_cons_of_mem _ ho)
      rw [sourceMembers, Source.selectMembers, text?_flatMap, Option.bind_eq_bind, Option.bind_some,
        hinner]
      dsimp only
      rw [hvalue, hrest]
      exact if_max _ _ room value rest fun value rest => (name, value) :: rest

end

theorem parseSelected_render {part : α} {json : Json} (h : Fits selection part json) :
    parseSelected selection part json.render =
      if json.depth ≤ maxDepth then some json else none := by
  have hscan : Token.scan json.render.toList = some json.source.tokens := by
    have hall := scans_render json h [] (fun c hc => (nomatch hc))
    simpa [Token.scan, Token.scanFrom] using hall
  have hsource : Source.parse json.render = some json.source := by
    rw [Source.parse, hscan]
    exact Source.ofTokens_tokens json.source
  rw [parseSelected, hsource]
  exact select_source json h maxDepth

end FrameMarkers.Json
