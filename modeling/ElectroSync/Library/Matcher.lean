import Mathlib.Data.List.Forall2
import Mathlib.Data.List.TakeWhile
import Mathlib.Order.MinMax
import Mathlib.Order.Nat

/-!
# Backtracking matchers

The pattern of a regular expression as a function: from a text to what the pattern can match at its
front, each time with the captures and the rest, in the order in which backtracking tries them.
`exec` is the pattern between `^` and `$`. `(a, rest) ∈ m s` is the language of the pattern, and the
`mem` lemmas say what it is for each operator. A pattern that is `Determined` can be read in one way
only, and then `exec` finds exactly what the language has.
-/

/-- What a pattern can match at the front of a text. -/
def Matcher (α : Type) := List Char → List (α × List Char)

namespace Matcher

instance : Monad Matcher where
  pure a := fun s => [(a, s)]
  bind m f := fun s => (m s).flatMap fun (a, rest) => f a rest

/-- `p{lo,hi}` for a class of characters, greedy; there is no bound when `hi` is `none`. -/
def run (p : Char → Bool) (lo : ℕ) (hi : Option ℕ) : Matcher (List Char) := fun s =>
  let most := min (s.takeWhile p).length (hi.getD s.length)
  ((List.range (most + 1)).reverse.filter (lo ≤ ·)).map fun k => (s.take k, s.drop k)

/-- The characters of `text`, up to `same`. -/
def literal (same : Char → Char → Bool) (text : List Char) : Matcher (List Char) := fun s =>
  if List.Forall₂ (fun a b => same a b) (s.take text.length) text then
    [(s.take text.length, s.drop text.length)]
  else []

def char (c : Char) : Matcher (List Char) := literal (· == ·) [c]

/-- `m?`, greedy. -/
def opt (m : Matcher α) : Matcher (Option α) := fun s =>
  (m s).map (fun (a, rest) => (some a, rest)) ++ [(none, s)]

/-- `m|n` -/
def alt (m n : Matcher α) : Matcher α := fun s => m s ++ n s

/-- `^m$` -/
def exec (m : Matcher α) (s : List Char) : Option α :=
  ((m s).find? fun (_, rest) => rest.isEmpty).map (·.1)

/-- `m$`, from the first place where it matches. -/
def search (m : Matcher α) (s : List Char) : Option α := s.tails.findSome? (exec m)

/-! ## Languages -/

section
variable {m n : Matcher α} {f : α → Matcher β} {p : Char → Bool} {s rest : List Char}

@[simp] theorem mem_pure : (a, rest) ∈ (pure b : Matcher α) s ↔ a = b ∧ rest = s := by
  change (a, rest) ∈ [(b, s)] ↔ _
  simp

@[simp] theorem mem_bind :
    (b, rest) ∈ (m >>= f) s ↔ ∃ a mid, (a, mid) ∈ m s ∧ (b, rest) ∈ f a mid := by
  change (b, rest) ∈ (m s).flatMap _ ↔ _
  simp [List.mem_flatMap]

theorem length_takeWhile_append {l r : List Char} (h : ∀ c ∈ l, p c = true) :
    l.length ≤ ((l ++ r).takeWhile p).length := by
  rw [List.takeWhile_append_of_pos h, List.length_append]
  exact Nat.le_add_right ..

@[simp] theorem mem_run : (l, rest) ∈ run p lo hi s ↔
    s = l ++ rest ∧ (∀ c ∈ l, p c = true) ∧ lo ≤ l.length ∧ ∀ h, hi = some h → l.length ≤ h := by
  simp only [run, List.mem_map, List.mem_filter, List.mem_reverse, List.mem_range,
    Nat.lt_succ_iff, le_min_iff, decide_eq_true_eq, Prod.mk.injEq]
  constructor
  · rintro ⟨k, ⟨⟨span, most⟩, least⟩, rfl, rfl⟩
    have inside : k ≤ s.length := span.trans (List.takeWhile_prefix p).length_le
    have length : (s.take k).length = k := List.length_take_of_le inside
    refine ⟨(List.take_append_drop k s).symm, ?_, length.ge.trans' least, ?_⟩
    · intro c member
      have front : s.take k = (s.takeWhile p).take k := by
        conv_lhs => rw [← List.takeWhile_append_dropWhile (p := p) (l := s)]
        exact List.take_append_of_le_length span
      rw [front] at member
      exact List.mem_takeWhile_imp (List.mem_of_mem_take member)
    · rintro h rfl
      exact length.trans_le most
  · rintro ⟨rfl, all, least, most⟩
    refine ⟨l.length, ⟨⟨length_takeWhile_append all, ?_⟩, least⟩, List.take_left, List.drop_left⟩
    cases hi with
    | none => simp
    | some h => exact most h rfl

@[simp] theorem mem_literal {same : Char → Char → Bool} {text : List Char} :
    (l, rest) ∈ literal same text s ↔
      s = l ++ rest ∧ List.Forall₂ (fun a b => same a b) l text := by
  simp only [literal]
  constructor
  · intro member
    split at member
    · next same =>
      cases List.mem_singleton.mp member
      exact ⟨(List.take_append_drop ..).symm, same⟩
    · cases member
  · rintro ⟨rfl, same⟩
    rw [← same.length_eq, List.take_left, List.drop_left, if_pos same]
    exact List.mem_singleton_self _

@[simp] theorem mem_char : (l, rest) ∈ char c s ↔ s = c :: rest ∧ l = [c] := by
  rw [char, mem_literal]
  constructor
  · rintro ⟨rfl, same⟩
    cases same with
    | cons head tail =>
      cases tail
      cases beq_iff_eq.mp head
      exact ⟨rfl, rfl⟩
  · rintro ⟨rfl, rfl⟩
    exact ⟨rfl, .cons (beq_self_eq_true c) .nil⟩

@[simp] theorem mem_opt_some : (some a, rest) ∈ opt m s ↔ (a, rest) ∈ m s := by
  simp [opt]

@[simp] theorem mem_opt_none : (none, rest) ∈ opt m s ↔ rest = s := by
  simp [opt]

@[simp] theorem mem_alt : (a, rest) ∈ alt m n s ↔ (a, rest) ∈ m s ∨ (a, rest) ∈ n s :=
  List.mem_append

end

/-! ## Patterns that can be read in one way -/

/-- Among the matches whose rest meets `follow`, there is at most one. -/
def Determined (follow : List Char → Prop) (m : Matcher α) : Prop :=
  ∀ s a rest a' rest', (a, rest) ∈ m s → (a', rest') ∈ m s → follow rest → follow rest' →
    a = a' ∧ rest = rest'

/-- The text does not go on with a character of the class. -/
def Stops (p : Char → Bool) (s : List Char) : Prop := ∀ c ∈ s.head?, p c = false

section
variable {m n : Matcher α} {f : α → Matcher β} {p q : Char → Bool} {s rest : List Char}
  {follow mid : List Char → Prop}

theorem stops_cons (h : p c = false) : Stops p (c :: s) := by
  intro d member
  cases member
  exact h

theorem Stops.append (h : Stops p s) (nonempty : s ≠ []) (back : List Char) :
    Stops p (s ++ back) := by
  cases s with
  | nil => exact absurd rfl nonempty
  | cons c s => exact stops_cons (h c rfl)

theorem Stops.dropWhile_eq (h : Stops p s) : s.dropWhile p = s := by
  cases s with
  | nil => rfl
  | cons c s => exact List.dropWhile_cons_of_neg (by rw [h c rfl]; decide)

theorem stops_of_run {f : List Char → Matcher α} (pos : 0 < lo)
    (apart : ∀ c, p c = true → q c = false) (h : (a, rest) ∈ (run p lo hi >>= f) s) :
    Stops q s := by
  obtain ⟨l, mid, first, -⟩ := mem_bind.mp h
  obtain ⟨rfl, all, least, -⟩ := mem_run.mp first
  cases l with
  | nil => exact absurd least (not_le.mpr pos)
  | cons c l => exact stops_cons (apart c (all c List.mem_cons_self))

theorem stops_of_char {f : List Char → Matcher α} (apart : q c = false)
    (h : (a, rest) ∈ (char c >>= f) s) : Stops q s := by
  obtain ⟨l, mid, first, -⟩ := mem_bind.mp h
  obtain ⟨rfl, -⟩ := mem_char.mp first
  exact stops_cons apart

theorem span_unique {l l' r r' : List Char} (same : l ++ r = l' ++ r')
    (all : ∀ c ∈ l, p c = true) (all' : ∀ c ∈ l', p c = true) (stops : Stops p r)
    (stops' : Stops p r') : l = l' ∧ r = r' := by
  induction l generalizing l' with
  | nil =>
    cases l' with
    | nil => exact ⟨rfl, same⟩
    | cons c l' =>
      have stop : p c = false := stops c (by rw [← List.nil_append r, same]; rfl)
      rw [all' c List.mem_cons_self] at stop
      cases stop
  | cons c l ih =>
    cases l' with
    | nil =>
      have stop : p c = false := stops' c (by rw [← List.nil_append r', ← same]; rfl)
      rw [all c List.mem_cons_self] at stop
      cases stop
    | cons c' l' =>
      obtain ⟨rfl, tails⟩ := List.cons.inj same
      obtain ⟨rfl, rest⟩ := ih tails (fun d member => all d (List.mem_cons_of_mem _ member))
        (fun d member => all' d (List.mem_cons_of_mem _ member))
      exact ⟨rfl, rest⟩

/-- A run is determined when the text after it does not go on with its class. -/
theorem determined_run (stops : ∀ rest, follow rest → Stops p rest) :
    Determined follow (run p lo hi) := by
  intro s l rest l' rest' h h' hrest hrest'
  obtain ⟨rfl, all, -⟩ := mem_run.mp h
  obtain ⟨same, all', -⟩ := mem_run.mp h'
  exact span_unique same all all' (stops _ hrest) (stops _ hrest')

/-- A pattern is determined when all that it matches has one length. -/
theorem determined_of_length {m : Matcher (List Char)} (length : ℕ)
    (h : ∀ s l rest, (l, rest) ∈ m s → s = l ++ rest ∧ l.length = length) :
    Determined follow m := by
  intro s l rest l' rest' member member' _ _
  obtain ⟨rfl, hl⟩ := h s l rest member
  obtain ⟨same, hl'⟩ := h _ l' rest' member'
  exact List.append_inj same (hl.trans hl'.symm)

theorem determined_run_exact : Determined follow (run p length (some length)) := by
  apply determined_of_length length
  intro s l rest member
  obtain ⟨rfl, -, least, most⟩ := mem_run.mp member
  exact ⟨rfl, Nat.le_antisymm (most length rfl) least⟩

theorem determined_char : Determined follow (char c) := by
  apply determined_of_length 1
  intro s l rest member
  obtain ⟨rfl, rfl⟩ := mem_char.mp member
  exact ⟨rfl, rfl⟩

/-- The alternatives of a case are determined when they have one length. -/
theorem determined_alt_literal {same : Char → Char → Bool} {text text' : List Char}
    (length : text.length = text'.length) :
    Determined follow (alt (literal same text) (literal same text')) := by
  apply determined_of_length text.length
  intro s l rest member
  rcases mem_alt.mp member with left | right
  · obtain ⟨rfl, letters⟩ := mem_literal.mp left
    exact ⟨rfl, letters.length_eq⟩
  · obtain ⟨rfl, letters⟩ := mem_literal.mp right
    exact ⟨rfl, letters.length_eq.trans length.symm⟩

theorem determined_pure (a : α) : Determined follow (pure a) := by
  intro s b rest b' rest' h h' _ _
  obtain ⟨rfl, rfl⟩ := mem_pure.mp h
  obtain ⟨rfl, rfl⟩ := mem_pure.mp h'
  exact ⟨rfl, rfl⟩

/-- A sequence is determined when its parts are, the first before what the second can begin
with. -/
theorem Determined.bind (first : Determined mid m) (second : ∀ a, Determined follow (f a))
    (begins : ∀ a s b rest, (b, rest) ∈ f a s → follow rest → mid s) :
    Determined follow (m >>= f) := by
  intro s b rest b' rest' h h' hrest hrest'
  obtain ⟨a, between, ha, hb⟩ := mem_bind.mp h
  obtain ⟨a', between', ha', hb'⟩ := mem_bind.mp h'
  obtain ⟨rfl, rfl⟩ := first _ _ _ _ _ ha ha' (begins _ _ _ _ hb hrest)
    (begins _ _ _ _ hb' hrest')
  exact second a _ _ _ _ _ hb hb' hrest hrest'

theorem Determined.bind_fixed (first : Determined (fun _ => True) m)
    (second : ∀ a, Determined follow (f a)) : Determined follow (m >>= f) :=
  first.bind second fun _ _ _ _ _ _ => trivial

/-- The first part stops where the second begins. -/
theorem Determined.bind_stops (first : Determined (Stops p) m)
    (second : ∀ a, Determined follow (f a))
    (begins : ∀ a s b rest, (b, rest) ∈ f a s → Stops p s) : Determined follow (m >>= f) :=
  first.bind second fun a s b rest h _ => begins a s b rest h

theorem Determined.bind_pure (first : Determined follow m) (g : α → β) :
    Determined follow (m >>= fun a => pure (g a)) := by
  apply first.bind (fun _ => determined_pure _)
  intro a s b rest h follows
  exact (mem_pure.mp h).2 ▸ follows

/-- An option is determined when what may follow it cannot be read as the option. -/
theorem Determined.opt (inner : Determined follow m)
    (apart : ∀ s a rest, (a, rest) ∈ m s → follow rest → ¬ follow s) :
    Determined follow (opt m) := by
  intro s o rest o' rest' h h' hrest hrest'
  cases o with
  | none =>
    rw [mem_opt_none] at h
    subst h
    cases o' with
    | none => exact ⟨rfl, (mem_opt_none.mp h').symm⟩
    | some a' => exact absurd hrest (apart _ _ _ (mem_opt_some.mp h') hrest')
  | some a =>
    cases o' with
    | none =>
      rw [mem_opt_none] at h'
      subst h'
      exact absurd hrest' (apart _ _ _ (mem_opt_some.mp h) hrest)
    | some a' =>
      obtain ⟨rfl, rfl⟩ := inner _ _ _ _ _ (mem_opt_some.mp h) (mem_opt_some.mp h') hrest hrest'
      exact ⟨rfl, rfl⟩

/-! ## Whole texts -/

/-- The rest of a match that reaches the end. -/
def AtEnd (s : List Char) : Prop := s = []

theorem mem_of_exec {s : List Char} (h : exec m s = some a) : (a, []) ∈ m s := by
  obtain ⟨⟨a', rest⟩, found, rfl⟩ := Option.map_eq_some_iff.mp h
  have member := List.mem_of_find?_eq_some found
  have done := List.find?_some found
  cases List.isEmpty_iff.mp done
  exact member

theorem exec_eq_some_iff (determined : Determined AtEnd m) {s : List Char} :
    exec m s = some a ↔ (a, []) ∈ m s := by
  refine ⟨mem_of_exec, fun member => ?_⟩
  have found : (exec m s).isSome := by
    rw [exec, Option.isSome_map, List.find?_isSome]
    exact ⟨_, member, rfl⟩
  obtain ⟨a', same⟩ := Option.isSome_iff_exists.mp found
  obtain ⟨rfl, -⟩ := determined _ _ _ _ _ (mem_of_exec same) member rfl rfl
  exact same

/-- The search gives the match at the first place that has one. -/
theorem search_append {s front : List Char}
    (none : ∀ back, back ≠ [] → back <:+ front → exec m (back ++ s) = none)
    (here : exec m s = some a) : search m (front ++ s) = some a := by
  induction front with
  | nil =>
    cases s with
    | nil => simp only [List.append_nil, search, List.tails, List.findSome?_cons, here]
    | cons c s => simp only [List.nil_append, search, List.tails, List.findSome?_cons, here]
  | cons c front ih =>
    have skip : exec m (c :: (front ++ s)) = Option.none :=
      none (c :: front) (List.cons_ne_nil c front) List.suffix_rfl
    have later := ih fun back nonempty suffix =>
      none back nonempty (suffix.trans (List.suffix_cons ..))
    rw [search] at later ⊢
    rw [List.cons_append, List.tails, List.findSome?_cons, skip]
    exact later

theorem exists_of_search {s : List Char} (h : search m s = some a) :
    ∃ front back, s = front ++ back ∧ exec m back = some a ∧
      ∀ between, between ≠ [] → between <:+ front → exec m (between ++ back) = none := by
  induction s with
  | nil =>
    refine ⟨[], [], rfl, by simpa [search] using h, fun between nonempty suffix => ?_⟩
    exact absurd (List.suffix_nil.mp suffix) nonempty
  | cons c s ih =>
    rw [search, List.tails, List.findSome?_cons] at h
    split at h
    · next here =>
      cases h
      refine ⟨[], c :: s, rfl, here, fun between nonempty suffix => ?_⟩
      exact absurd (List.suffix_nil.mp suffix) nonempty
    · next skip =>
      obtain ⟨front, back, rfl, here, none⟩ := ih h
      refine ⟨c :: front, back, rfl, here, fun between nonempty suffix => ?_⟩
      rcases List.suffix_cons_iff.mp suffix with rfl | suffix
      · exact skip
      · exact none between nonempty suffix

end

end Matcher
