import ZoneServer.Proofs.Name.Form

/-!
# Names that may not be written

What stands in the way of writing a name is the first of its labels that is not valid or, if all of them
are, its length; `Name.Fault` says so without looking for it. It is found before anything is written, so it
leaves the buffer as it was, and it has nothing to do with the space that is left.
-/

namespace ZoneServer.Name

/-- What stands in the way of writing a name. -/
inductive Fault (name : Name) : EncodeError → Prop where
  /-- The first of its labels that is not valid. -/
  | label {before after : List Label} {label : Label} (split : name.labels = before ++ label :: after)
    (valid : ∀ earlier ∈ before, earlier.isValid = true) (invalid : label.isValid = false) :
    Fault name (.invalidLabel label)
  /-- Its length, if all of its labels are valid. -/
  | length (valid : ∀ label ∈ name.labels, label.isValid = true)
    (long : maxNameLength < name.encodedLength) : Fault name .nameTooLong

variable {name : Name} {cause : EncodeError}

theorem fault_of_check (h : name.check = .error cause) : name.Fault cause := by
  unfold check at h
  split at h
  · rename_i label hfind
    cases h
    obtain ⟨hinvalid, before, after, hsplit, hvalid⟩ := List.find?_eq_some_iff_append.1 hfind
    exact .label hsplit (by simpa using hvalid) (by simpa using hinvalid)
  · rename_i hfind
    split at h
    · cases h
    · rename_i hlong
      cases h
      exact .length (by simpa using hfind) (Nat.not_le.1 hlong)

theorem Fault.check_eq (h : name.Fault cause) : name.check = .error cause := by
  cases h with
  | @label before after label split valid invalid =>
    have hfind : name.labels.find? (!·.isValid) = some label := by
      refine List.find?_eq_some_iff_append.2 ⟨by simpa using invalid, before, after, split, ?_⟩
      simpa using valid
    rw [check, hfind]
  | length valid long =>
    have hfind : name.labels.find? (!·.isValid) = none := by
      rw [List.find?_eq_none]
      simpa using valid
    rw [check, hfind]
    exact if_neg (Nat.not_le.2 long)

/-- The check of a name finds its fault. -/
theorem check_eq_error : name.check = .error cause ↔ name.Fault cause :=
  ⟨fault_of_check, Fault.check_eq⟩

theorem valid_or_fault (name : Name) : name.Valid ∨ ∃ cause, name.Fault cause := by
  cases hcheck : name.check with
  | ok => exact .inl (check_eq_ok.1 hcheck)
  | error cause => exact .inr ⟨cause, fault_of_check hcheck⟩

theorem Fault.not_valid (h : name.Fault cause) : ¬ name.Valid := by
  intro hvalid
  have hcheck := h.check_eq
  rw [check_eq_ok.2 hvalid] at hcheck
  cases hcheck

theorem Fault.unique {cause' : EncodeError} (h : name.Fault cause) (h' : name.Fault cause') :
    cause = cause' := Except.error.inj (h.check_eq.symm.trans h'.check_eq)

theorem check_ne_bufferFull : name.check ≠ .error .bufferFull := by
  rw [Ne, check_eq_error]
  rintro ⟨⟩

theorem form_of_fault (h : name.check = .error cause) : name.form = .ofFault cause := by
  rw [form, h]
  exact WireForm.append_of_fault_some rfl _

/-- A name at fault is refused wherever it should be written, and nothing is written. -/
theorem Fault.encode_eq (h : name.Fault cause) (b : Buffer) : name.encode b = .error cause b := by
  have hcheck : Encoder.check name.check b = .error cause b := by
    rw [h.check_eq]
    rfl
  exact Wire.bind_eq_error.2 (.inl hcheck)

/-- A name fails to be written if it does not pass its check, and for no other reason. -/
theorem encode_eq_error : Encoder.encode name.encode = .error cause ↔ name.check = .error cause := by
  cases hcheck : name.check with
  | ok =>
    have hok : Encoder.encode name.encode = .ok name.wire :=
      encode_eq_ok.2 ⟨check_eq_ok.1 hcheck, rfl⟩
    simp [hok]
  | error fault =>
    have hfault : Encoder.encode name.encode = .error fault := by
      rw [(writes_encode name).encode_eq, form_of_fault hcheck]
      rfl
    simp [hfault]

end ZoneServer.Name
