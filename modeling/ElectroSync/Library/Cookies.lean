import ElectroSync.Library.JsString

/-!
# Cookie headers

A `Set-Cookie` header begins with a pair of a name and a value, and a `Cookie` header is a list of
such pairs. Whatever the pairs are, a server that takes the second apart finds the pairs of the
first.
-/

namespace Cookies

/-- The pair that a `Set-Cookie` header begins with: its attributes follow the first semicolon. -/
def pair (setCookie : String) : String :=
  JsString.trim (String.ofList (setCookie.toList.takeWhile (· ≠ ';')))

/-- The pairs of some `Set-Cookie` headers, without the empty ones. -/
def pairs (setCookies : List String) : List String := (setCookies.map pair).filter (· ≠ "")

/-- The `Cookie` header of some pairs. -/
def header (pairs : List String) : String := "; ".intercalate pairs

/-- How a server takes a `Cookie` header apart. -/
def read (header : String) : List String :=
  ((header.toList.splitOn ';').map fun part => JsString.trim (String.ofList part)).filter (· ≠ "")

/-- A text that is read back from a header. -/
structure Fit (text : String) : Prop where
  nonempty : text ≠ ""
  whole : ';' ∉ text.toList
  trimmed : JsString.trim text = text

theorem fit_of_mem_pairs {setCookies : List String} {text : String}
    (member : text ∈ pairs setCookies) : Fit text := by
  rw [pairs, List.mem_filter] at member
  obtain ⟨listed, nonempty⟩ := member
  obtain ⟨setCookie, -, rfl⟩ := List.mem_map.mp listed
  refine ⟨of_decide_eq_true nonempty, fun inside => ?_, JsString.trim_trim _⟩
  have kept := (JsString.trim_sublist _).mem inside
  rw [String.toList_ofList] at kept
  simpa using List.mem_takeWhile_imp kept

theorem trim_space (text : String) :
    JsString.trim (String.ofList (' ' :: text.toList)) = JsString.trim text := by
  have space : JsString.isSpace ' ' := by decide
  rw [JsString.trim, String.toList_ofList, List.dropWhile_cons_of_pos space, JsString.trim]

theorem intercalate_spaced (words : List (List Char)) :
    "; ".toList.intercalate (word :: words) =
      [';'].intercalate (word :: words.map (' ' :: ·)) := by
  induction words generalizing word with
  | nil => rfl
  | cons next words ih =>
    have spaced : [';'].intercalate ((' ' :: next) :: words.map (' ' :: ·)) =
        ' ' :: [';'].intercalate (next :: words.map (' ' :: ·)) := by
      cases words <;> simp
    rw [List.map_cons, List.intercalate_cons_cons, List.intercalate_cons_cons, ih, spaced]
    simp

/-- The parts of a header are the pairs, all but the first after a space. -/
theorem splitOn_header {text : String} {texts : List String} (fit : ∀ t ∈ text :: texts, Fit t) :
    (header (text :: texts)).toList.splitOn ';' =
      text.toList :: (texts.map String.toList).map (' ' :: ·) := by
  rw [header, String.toList_intercalate, List.map_cons, intercalate_spaced,
    List.splitOn_intercalate ';' ?_ (List.cons_ne_nil _ _)]
  simp only [List.forall_mem_cons, List.forall_mem_map]
  refine ⟨(fit text List.mem_cons_self).whole, fun t member => ?_⟩
  have whole := (fit t (List.mem_cons_of_mem _ member)).whole
  simp [whole]

/-- A server finds the pairs that the header was made of. -/
theorem read_header {texts : List String} (fit : ∀ t ∈ texts, Fit t) :
    read (header texts) = texts := by
  cases texts with
  | nil => decide
  | cons text texts =>
    rw [read, splitOn_header fit]
    have trimmed (t : String) (member : t ∈ texts) :
        JsString.trim (String.ofList (' ' :: t.toList)) = t := by
      rw [trim_space, (fit t (List.mem_cons_of_mem _ member)).trimmed]
    have parts : (texts.map fun t => JsString.trim (String.ofList (' ' :: t.toList))) = texts :=
      (List.map_congr_left trimmed).trans (List.map_id _)
    rw [List.map_cons, List.map_map, List.map_map, String.ofList_toList,
      (fit text List.mem_cons_self).trimmed]
    change (text :: texts.map fun t => JsString.trim (String.ofList (' ' :: t.toList))).filter _ = _
    rw [parts, List.filter_eq_self]
    exact fun t member => decide_eq_true (fit t member).nonempty

theorem read_header_pairs (setCookies : List String) :
    read (header (pairs setCookies)) = pairs setCookies :=
  read_header fun _ member => fit_of_mem_pairs member

end Cookies
