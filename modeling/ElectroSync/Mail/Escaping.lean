import ElectroSync.Library.Markup
import ElectroSync.Mail.AlertTemplate

/-!
# User text in the mail of an alert

`escapeHtml` replaces one character after the other in the whole text, which comes to writing each
character by itself. What a reader of the mail sees is the template of the locale, with the title
and the body as they are.
-/

namespace ElectroSync
open Markup

/-! ## The escaping -/

theorem toList_replaceAll (c : Char) (text value : String) :
    (replaceAll c text value).toList =
      value.toList.flatMap fun d => if d = c then text.toList else [d] := by
  rw [replaceAll, String.toList_ofList]

/-- No replacement meets what an earlier one wrote. -/
theorem toList_escapeHtml (value : String) : (escapeHtml value).toList = encode value.toList := by
  simp only [escapeHtml, toList_replaceAll, List.flatMap_assoc, encode]
  congr 1
  funext c
  unfold encodeChar
  split_ifs with amp lt gt quot
  · rfl
  · subst lt
    rfl
  · subst gt
    rfl
  · subst quot
    rfl
  · simp only [List.flatMap_singleton, if_neg lt, if_neg gt, if_neg quot]

/-! ## The template -/

/-- The reader is outside tags again at the end of the text. -/
def Whole (text : String) : Prop := final .data text.toList = .data

instance (text : String) : Decidable (Whole text) := inferInstanceAs (Decidable (_ = _))

theorem Whole.append {front back : String} (first : Whole front) (second : Whole back) :
    Whole (front ++ back) := by
  rw [Whole, String.toList_append, final_append, first, second]

/-- A literal is judged on its characters. -/
theorem whole_ofList {text : List Char} (h : final .data text = .data) :
    Whole (String.ofList text) := by
  rw [Whole, String.toList_ofList, h]

theorem whole_ofList_append {front back : List Char} (h : final .data (front ++ back) = .data) :
    Whole (String.ofList front ++ String.ofList back) := by
  rw [Whole, String.toList_append, String.toList_ofList, String.toList_ofList, h]

theorem whole_escapeHtml (value : String) : Whole (escapeHtml value) := by
  rw [Whole, toList_escapeHtml]
  exact (read_encode _).1

theorem whole_intercalate {lines : List String} (all : ∀ line ∈ lines, Whole line) :
    Whole (String.intercalate "\n" lines) := by
  induction lines with
  | nil => rfl
  | cons line lines ih =>
    obtain ⟨first, others⟩ := List.forall_mem_cons.mp all
    rcases eq_or_ne lines [] with rfl | nonempty
    · rwa [String.intercalate_singleton]
    · rw [String.intercalate_cons_of_ne_nil nonempty]
      exact (first.append (by decide)).append (ih others)

theorem whole_linesBefore (locale : Language) (copy : AlertCopy) :
    ∀ line ∈ linesBefore locale copy, Whole line := by
  have introduced : Whole ("        " ++ escapeHtml copy.intro) :=
    Whole.append (whole_ofList (by decide)) (whole_escapeHtml _)
  have language : Whole ("<html lang=\"" ++ locale.text ++ "\">") := by
    cases locale <;> decide +kernel
  exact List.forall_iff_forall_mem.mp ⟨whole_ofList (by decide), language,
    whole_ofList_append (by decide +kernel), whole_ofList_append (by decide +kernel),
    whole_ofList (by decide +kernel), introduced, whole_ofList (by decide),
    whole_ofList (by decide +kernel)⟩

theorem whole_linesBetween : ∀ line ∈ linesBetween, Whole line :=
  List.forall_iff_forall_mem.mp
    ⟨whole_ofList (by decide), whole_ofList (by decide +kernel)⟩

/-- A line of user text between other lines. -/
theorem intercalate_line {before after : List String} (nonempty : before ≠ [])
    (nonempty' : after ≠ []) (text : String) :
    String.intercalate "\n" (before ++ ("        " ++ text) :: after) =
      (String.intercalate "\n" before ++ "\n        ") ++
        (text ++ ("\n" ++ String.intercalate "\n" after)) := by
  have pad : "\n        " = "\n" ++ "        " := rfl
  rw [String.intercalate_append_of_ne_nil nonempty (List.cons_ne_nil _ _),
    String.intercalate_cons_of_ne_nil nonempty', pad]
  simp only [String.append_assoc]

/-- The template around the title and the body; between its parts the reader is outside tags. -/
theorem alertHtml_split (locale : Language) (copy : AlertCopy) :
    ∃ front middle back : String, Whole front ∧ Whole middle ∧ ∀ address title body : String,
      alertHtml ⟨address, title, body, locale⟩ copy =
        front ++ (escapeHtml title ++ (middle ++ (escapeHtml body ++ back))) := by
  have before := whole_intercalate (whole_linesBefore locale copy)
  have between := whole_intercalate whole_linesBetween
  have pad : Whole "\n        " := by decide
  have lineBreak : Whole "\n" := by decide
  refine ⟨_, _, "\n" ++ String.intercalate "\n" (linesAfter copy), before.append pad,
    lineBreak.append (between.append pad), fun address title body => ?_⟩
  have first : linesBefore locale copy ≠ [] := List.cons_ne_nil _ _
  have second : linesBetween ≠ [] := List.cons_ne_nil _ _
  have third : linesAfter copy ≠ [] := List.cons_ne_nil _ _
  rw [alertHtml, intercalate_line first (List.append_ne_nil_of_left_ne_nil second _),
    intercalate_line second third]
  simp only [String.append_assoc]

/-- What a reader sees of the mail: the template of the locale, with the title and the body. -/
theorem tokens_alertMail (locale : Language) :
    ∃ front middle back : List Token, ∀ address title body : String,
      tokens (alertMail ⟨address, title, body, locale⟩).html.toList =
        front ++ title.toList.map .char ++ middle ++ body.toList.map .char ++ back := by
  obtain ⟨front, middle, back, outside, outside', split⟩ :=
    alertHtml_split locale (alertCopy locale)
  refine ⟨shown .data front.toList, shown .data middle.toList, tokens back.toList,
    fun address title body => ?_⟩
  have html : (alertMail ⟨address, title, body, locale⟩).html = _ := split address title body
  simp only [html, String.toList_append, toList_escapeHtml]
  rw [tokens_insert outside, tokens_insert outside']
  simp only [List.append_assoc]

/-- Escaped text has no character of markup but the `&` of an entity, the entities give the text
back, and a mail shows its title and body as they are, in the markup of its locale. -/
theorem escapeHtml_safe :
    (∀ value c, c ∈ ['<', '>', '"'] → c ∉ (escapeHtml value).toList) ∧
    (∀ value rest, '&' :: rest <:+ (escapeHtml value).toList →
      ∃ entity ∈ entities, entity <+: '&' :: rest) ∧
    (∀ value, String.ofList (decode (escapeHtml value).toList) = value) ∧
    ∀ locale, ∃ front middle back : List Token, ∀ address title body : String,
      tokens (alertMail ⟨address, title, body, locale⟩).html.toList =
        front ++ title.toList.map .char ++ middle ++ body.toList.map .char ++ back := by
  simp only [toList_escapeHtml]
  refine ⟨fun value c => not_mem_encode value.toList, fun value rest => entity_of_suffix,
    fun value => ?_, tokens_alertMail⟩
  rw [decode_encode, String.ofList_toList]

end ElectroSync
