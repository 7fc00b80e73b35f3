import Mathlib.Data.List.Basic

/-!
# Escaped text in markup

`encode` writes the four characters of markup as entities, and `decode` reads these entities in one
pass from the left. A reader of markup goes through a text in one pass too: it shows characters,
with an entity as the character it names, and takes from `<` to `>` as a tag, unless the `>` is
quoted. What it makes of a text depends on what came before only through its state, so that encoded
text shows itself wherever the reader is outside tags, and leaves it there.
-/

namespace Markup

/-! ## Entities -/

def encodeChar (c : Char) : List Char :=
  if c = '&' then "&amp;".toList
  else if c = '<' then "&lt;".toList
  else if c = '>' then "&gt;".toList
  else if c = '"' then "&quot;".toList
  else [c]

def encode (text : List Char) : List Char := text.flatMap encodeChar

def entities : List (List Char) :=
  ["&amp;".toList, "&lt;".toList, "&gt;".toList, "&quot;".toList]

def decode : List Char → List Char
  | [] => []
  | '&' :: 'a' :: 'm' :: 'p' :: ';' :: rest => '&' :: decode rest
  | '&' :: 'l' :: 't' :: ';' :: rest => '<' :: decode rest
  | '&' :: 'g' :: 't' :: ';' :: rest => '>' :: decode rest
  | '&' :: 'q' :: 'u' :: 'o' :: 't' :: ';' :: rest => '"' :: decode rest
  | c :: rest => c :: decode rest

theorem encode_cons (c : Char) (text : List Char) :
    encode (c :: text) = encodeChar c ++ encode text := List.flatMap_cons

theorem decode_cons_of_ne {c : Char} (plain : c ≠ '&') (rest : List Char) :
    decode (c :: rest) = c :: decode rest := by
  rw [decode] <;> simp_all

theorem decode_encodeChar (c : Char) (rest : List Char) :
    decode (encodeChar c ++ rest) = c :: decode rest := by
  unfold encodeChar
  split_ifs with amp lt gt quot
  · rw [amp]
    rfl
  · rw [lt]
    rfl
  · rw [gt]
    rfl
  · rw [quot]
    rfl
  · exact decode_cons_of_ne amp rest

/-- Reading the entities of an encoded text gives the text back. -/
theorem decode_encode (text : List Char) : decode (encode text) = text := by
  induction text with
  | nil => rfl
  | cons c text ih => rw [encode_cons, decode_encodeChar, ih]

/-- A character is written as an entity, or as itself when it is none of markup. -/
theorem encodeChar_cases (c : Char) :
    encodeChar c ∈ entities ∨ encodeChar c = [c] ∧ c ∉ ['&', '<', '>', '"'] := by
  unfold encodeChar
  split_ifs with amp lt gt quot
  · exact .inl (by decide)
  · exact .inl (by decide)
  · exact .inl (by decide)
  · exact .inl (by decide)
  · exact .inr ⟨rfl, by simp [amp, lt, gt, quot]⟩

/-- No character of markup is left but the start of an entity. -/
theorem not_mem_encode (text : List Char) {c : Char} (markup : c ∈ ['<', '>', '"']) :
    c ∉ encode text := by
  rw [encode, List.mem_flatMap]
  rintro ⟨d, -, member⟩
  rcases encodeChar_cases d with entity | ⟨itself, plain⟩
  · have clean : ∀ code ∈ entities, '<' ∉ code ∧ '>' ∉ code ∧ '"' ∉ code := by decide
    obtain ⟨lt, gt, quot⟩ := clean _ entity
    simp only [List.mem_cons, List.not_mem_nil, or_false] at markup
    rcases markup with rfl | rfl | rfl
    · exact lt member
    · exact gt member
    · exact quot member
  · rw [itself, List.mem_singleton] at member
    rw [← member] at plain
    exact plain (List.mem_cons_of_mem _ markup)

/-- Where a front has no `&`, one is past it. -/
theorem suffix_of_plain {front text rest : List Char} (plain : '&' ∉ front)
    (h : '&' :: rest <:+ front ++ text) : '&' :: rest <:+ text := by
  induction front with
  | nil => exact h
  | cons c front ih =>
    rw [List.mem_cons, not_or] at plain
    rw [List.cons_append, List.suffix_cons_iff] at h
    rcases h with same | later
    · exact absurd (List.cons.inj same).1 plain.1
    · exact ih plain.2 later

/-- An `&` in what is written for a character starts an entity. -/
theorem suffix_encodeChar {c : Char} {text rest : List Char}
    (h : '&' :: rest <:+ encodeChar c ++ text) :
    (∃ entity ∈ entities, entity <+: '&' :: rest) ∨ '&' :: rest <:+ text := by
  have first : ∀ front : List Char, '&' ∉ front → ('&' :: front) ∈ entities →
      '&' :: rest <:+ ('&' :: front) ++ text →
      (∃ entity ∈ entities, entity <+: '&' :: rest) ∨ '&' :: rest <:+ text := by
    intro front plain entity h
    rw [List.cons_append, List.suffix_cons_iff] at h
    rcases h with same | later
    · exact .inl ⟨_, entity, same ▸ List.prefix_append _ text⟩
    · exact .inr (suffix_of_plain plain later)
  unfold encodeChar at h
  split_ifs at h with amp lt gt quot
  · exact first _ (by decide) (by decide) h
  · exact first _ (by decide) (by decide) h
  · exact first _ (by decide) (by decide) h
  · exact first _ (by decide) (by decide) h
  · exact .inr (suffix_of_plain (by simpa [eq_comm] using amp) h)

/-- Every `&` of an encoded text starts an entity. -/
theorem entity_of_suffix {text rest : List Char} (h : '&' :: rest <:+ encode text) :
    ∃ entity ∈ entities, entity <+: '&' :: rest := by
  induction text with
  | nil => simp [encode] at h
  | cons c text ih =>
    rw [encode_cons] at h
    rcases suffix_encodeChar h with start | later
    · exact start
    · exact ih later

/-! ## A reader of markup -/

inductive Token
  | char (c : Char)
  | tag (source : List Char)
  deriving DecidableEq

inductive State
  | data
  | reference (name : List Char)
  | tag (source : List Char) (quote : Option Char)
  deriving DecidableEq

/-- A character outside tags and entities. -/
def stepData (c : Char) : State × List Token :=
  if c = '<' then (.tag [] none, [])
  else if c = '&' then (.reference [], [])
  else (.data, [.char c])

/-- A reference that is no entity stands for its own characters. -/
def step : State → Char → State × List Token
  | .data, c => stepData c
  | .reference name, c =>
    if c = ';' ∧ '&' :: name ++ [';'] ∈ entities then
      (.data, (decode ('&' :: name ++ [';'])).map .char)
    else if c.isAlphanum then (.reference (name ++ [c]), [])
    else
      let next := stepData c
      (next.1, ('&' :: name).map .char ++ next.2)
  | .tag source none, c =>
    if c = '>' then (.data, [.tag source])
    else (.tag (source ++ [c]) (if c = '"' ∨ c = '\x27' then some c else none), [])
  | .tag source (some quote), c =>
    (.tag (source ++ [c]) (if c = quote then none else some quote), [])

def final (s : State) (html : List Char) : State := html.foldl (fun s c => (step s c).1) s

/-- What a text shows from a state on. -/
def shown : State → List Char → List Token
  | _, [] => []
  | s, c :: rest => (step s c).2 ++ shown (step s c).1 rest

/-- What the end of the text makes of the state. -/
def flush : State → List Token
  | .data => []
  | .reference name => ('&' :: name).map .char
  | .tag _ _ => []

def tokens (html : List Char) : List Token := shown .data html ++ flush (final .data html)

theorem final_append (s : State) (front back : List Char) :
    final s (front ++ back) = final (final s front) back := List.foldl_append

theorem shown_append (s : State) (front back : List Char) :
    shown s (front ++ back) = shown s front ++ shown (final s front) back := by
  induction front generalizing s with
  | nil => rfl
  | cons c front ih =>
    rw [List.cons_append, shown, ih, shown, List.append_assoc]
    rfl

theorem read_encodeChar (c : Char) :
    final .data (encodeChar c) = .data ∧ shown .data (encodeChar c) = [.char c] := by
  unfold encodeChar
  split_ifs with amp lt gt quot
  · subst amp
    decide
  · subst lt
    decide
  · subst gt
    decide
  · subst quot
    decide
  · simp [final, shown, step, stepData, amp, lt]

/-- Encoded text shows itself, and no tag. -/
theorem read_encode (text : List Char) :
    final .data (encode text) = .data ∧ shown .data (encode text) = text.map .char := by
  induction text with
  | nil => exact ⟨rfl, rfl⟩
  | cons c text ih =>
    obtain ⟨stays, shows⟩ := read_encodeChar c
    rw [encode_cons, final_append, shown_append, stays, shows, ih.1, ih.2]
    exact ⟨rfl, rfl⟩

/-- After a text that leaves the reader outside tags, an encoded text is shown as it is. -/
theorem tokens_insert {front : List Char} (outside : final .data front = .data)
    (text back : List Char) :
    tokens (front ++ (encode text ++ back)) =
      shown .data front ++ text.map .char ++ tokens back := by
  obtain ⟨stays, shows⟩ := read_encode text
  simp only [tokens, shown_append, final_append, outside, stays, shows, List.append_assoc]

end Markup
