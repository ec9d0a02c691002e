import Mathlib.Data.List.TakeWhile
import SessionTokens.Text.Blank

/-!
# White space around texts and between fields

White space around a text does not count where the text is trimmed (`trim_append`), and nothing else is white
space throughout than what is trimmed to nothing (`trim_eq_empty_iff`). The first field of a text is the first
maximal run of characters that are not white space (`nextField?_eq_some_iff`).
-/

namespace SessionTokens.Text

/-- There is nothing but white space. -/
def AllBlank (l : List Char) : Prop :=
  ∀ c ∈ l, isBlank c = true

/-- There is something, and no white space in it. -/
def IsField (l : List Char) : Prop :=
  l ≠ [] ∧ ∀ c ∈ l, isBlank c = false

/-- No field goes on here. -/
def EndsField (rest : List Char) : Prop :=
  ∀ c ∈ rest.head?, isBlank c = true

/-! ## Trimming -/

theorem dropWhile_isBlank {l : List Char} (h : ∀ c ∈ l, isBlank c = false) :
    l.dropWhile isBlank = l := by
  cases l with
  | nil => rfl
  | cons c r => exact List.dropWhile_cons_of_neg (by simp [h c List.mem_cons_self])

theorem trim_of_isBlank {s : String} (h : ∀ c ∈ s.toList, isBlank c = false) : trim s = s := by
  have hreverse : ∀ c ∈ s.toList.reverse, isBlank c = false :=
    fun c hc => h c (List.mem_reverse.mp hc)
  rw [trim, trimChars, dropWhile_isBlank h, dropWhile_isBlank hreverse, List.reverse_reverse,
    String.ofList_toList]

theorem trimChars_append {before after : List Char} (hbefore : AllBlank before)
    (hafter : AllBlank after) (l : List Char) : trimChars (before ++ l ++ after) = trimChars l := by
  have hreverse : AllBlank after.reverse := fun c hc => hafter c (List.mem_reverse.mp hc)
  unfold trimChars
  rw [List.append_assoc, List.dropWhile_append_of_pos hbefore, List.dropWhile_append]
  cases hl : l.dropWhile isBlank with
  | nil =>
    rw [List.dropWhile_eq_nil_iff.mpr hafter]
    rfl
  | cons c r =>
    rw [if_neg (by simp), List.reverse_append, List.dropWhile_append_of_pos hreverse]

/-- **White space around a text does not count.** -/
theorem trim_append {before after : String} (hbefore : AllBlank before.toList)
    (hafter : AllBlank after.toList) (s : String) : trim (before ++ s ++ after) = trim s := by
  rw [trim, String.toList_append, String.toList_append, trimChars_append hbefore hafter, trim]

theorem trimChars_eq_nil_iff {l : List Char} : trimChars l = [] ↔ AllBlank l := by
  unfold trimChars
  rw [List.reverse_eq_nil_iff, List.dropWhile_eq_nil_iff]
  constructor
  · intro h c hc
    rw [← List.takeWhile_append_dropWhile (p := isBlank) (l := l)] at hc
    rcases List.mem_append.mp hc with hc | hc
    · exact List.mem_takeWhile_imp hc
    · exact h c (List.mem_reverse.mpr hc)
  · intro h c hc
    exact h c ((List.dropWhile_sublist isBlank).subset (List.mem_reverse.mp hc))

theorem trim_eq_empty_iff {s : String} : trim s = "" ↔ AllBlank s.toList := by
  rw [← trimChars_eq_nil_iff, trim, ← String.toList_inj, String.toList_ofList]
  rfl

/-! ## Fields -/

theorem isField_of_all {l : List Char} (hne : l ≠ []) (h : (l.all fun c => !isBlank c) = true) :
    IsField l :=
  ⟨hne, fun c hc => by simpa using List.all_eq_true.mp h c hc⟩

theorem dropWhile_field {field : List Char} (h : IsField field) (rest : List Char) :
    (field ++ rest).dropWhile isBlank = field ++ rest := by
  obtain ⟨hne, hfield⟩ := h
  cases field with
  | nil => exact absurd rfl hne
  | cons c r => exact List.dropWhile_cons_of_neg (by simp [hfield c List.mem_cons_self])

/-- **The first field is the first maximal run of characters that are not white space.** -/
theorem nextField?_eq_some_iff {l field rest : List Char} :
    nextField? l = some (field, rest) ↔
      ∃ lead, l = lead ++ (field ++ rest) ∧ AllBlank lead ∧ IsField field ∧ EndsField rest := by
  constructor
  · intro h
    have hl := List.takeWhile_append_dropWhile (p := isBlank) (l := l)
    unfold nextField? at h
    cases hdrop : l.dropWhile isBlank with
    | nil => simp [hdrop] at h
    | cons c r =>
      have hc : isBlank c = false := by
        have hhead := List.head?_dropWhile_not isBlank l
        simpa [hdrop] using hhead
      simp only [hdrop, Option.some.injEq, Prod.mk.injEq] at h
      obtain ⟨rfl, rfl⟩ := h
      refine ⟨l.takeWhile isBlank, ?_, fun d hd => List.mem_takeWhile_imp hd, ⟨?_, fun d hd => ?_⟩,
        fun d hd => ?_⟩
      · rw [List.takeWhile_append_dropWhile, ← hdrop, hl]
      · simp [hc]
      · simpa using List.mem_takeWhile_imp hd
      · have hhead := List.head?_dropWhile_not (fun d => !isBlank d) (c :: r)
        rw [Option.mem_def.mp hd] at hhead
        simpa using hhead
  · rintro ⟨lead, rfl, hlead, hfield, hrest⟩
    have hinside : ∀ c ∈ field, (!isBlank c) = true := fun c hc => by simp [hfield.2 c hc]
    have hends : rest.takeWhile (fun d => !isBlank d) = [] ∧
        rest.dropWhile (fun d => !isBlank d) = rest := by
      cases rest with
      | nil => exact ⟨rfl, rfl⟩
      | cons d t => simp [hrest d rfl]
    unfold nextField?
    rw [List.dropWhile_append_of_pos hlead, dropWhile_field hfield]
    cases hcons : field ++ rest with
    | nil => exact absurd (List.append_eq_nil_iff.mp hcons).1 hfield.1
    | cons c r =>
      simp only [← hcons]
      rw [List.takeWhile_append_of_pos hinside, List.dropWhile_append_of_pos hinside, hends.1, hends.2,
        List.append_nil]

theorem nextField?_eq_none_iff {l : List Char} : nextField? l = none ↔ AllBlank l := by
  unfold nextField?
  cases hdrop : l.dropWhile isBlank with
  | nil => exact iff_of_true rfl (List.dropWhile_eq_nil_iff.mp hdrop)
  | cons c r =>
    refine iff_of_false (Option.some_ne_none _) fun h => ?_
    rw [List.dropWhile_eq_nil_iff.mpr h] at hdrop
    exact absurd hdrop.symm (List.cons_ne_nil c r)

end SessionTokens.Text
