import SessionTokens.Proofs.Text.Blank

/-!
# All the fields of a text

A text is cut at every character of white space; the pieces that are not empty are its fields. The first of them is the
one that is taken from the front, and the others are those of the rest (`fields_of_nextField?`).
-/

namespace SessionTokens.Text

/-- The pieces between characters of white space, without the empty ones. -/
def fields (l : List Char) : List (List Char) :=
  (l.splitOnP isBlank).filter (· ≠ [])

theorem fields_append_cons {c : Char} (hc : isBlank c = true) (l r : List Char) :
    fields (l ++ c :: r) = fields l ++ fields r := by
  rw [fields, List.splitOnP_append_cons l r hc, List.filter_append]
  rfl

/-- White space in front belongs to no field. -/
theorem fields_append {lead : List Char} (hlead : AllBlank lead) (l : List Char) :
    fields (lead ++ l) = fields l := by
  induction lead with
  | nil => rfl
  | cons c r ih =>
    obtain ⟨hc, hr⟩ := List.forall_mem_cons.mp hlead
    rw [List.cons_append, ← List.nil_append (c :: (r ++ l)), fields_append_cons hc, ih hr]
    rfl

theorem fields_of_allBlank {l : List Char} (h : AllBlank l) : fields l = [] := by
  have hfields := fields_append h []
  rw [List.append_nil] at hfields
  rw [hfields]
  rfl

theorem fields_of_isField {field : List Char} (h : IsField field) : fields field = [field] := by
  rw [fields, List.splitOnP_eq_singleton h.2]
  exact List.filter_cons_of_pos (decide_eq_true h.1)

/-- A field that ends somewhere stands before the fields of what follows. -/
theorem fields_field_append {field rest : List Char} (h : IsField field) (hrest : EndsField rest) :
    fields (field ++ rest) = field :: fields rest := by
  cases rest with
  | nil => rw [List.append_nil, fields_of_isField h, fields_of_allBlank (List.forall_mem_nil _)]
  | cons c r =>
    have hc : isBlank c = true := hrest c rfl
    have hrest : fields (c :: r) = fields r := fields_append_cons hc [] r
    rw [fields_append_cons hc, fields_of_isField h, hrest, List.singleton_append]

/-- **The fields of a text are its first field and those of the rest.** -/
theorem fields_of_nextField? {l field rest : List Char} (h : nextField? l = some (field, rest)) :
    fields l = field :: fields rest := by
  obtain ⟨lead, rfl, hlead, hfield, hrest⟩ := nextField?_eq_some_iff.mp h
  rw [fields_append hlead, fields_field_append hfield hrest]

theorem fields_of_nextField?_none {l : List Char} (h : nextField? l = none) : fields l = [] :=
  fields_of_allBlank (nextField?_eq_none_iff.mp h)

end SessionTokens.Text
