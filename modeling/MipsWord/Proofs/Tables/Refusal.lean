import MipsWord.Proofs.Tables.Conflict

namespace MipsWord

variable {specs : List Spec} {registers : List Register} {error : TableError}

namespace Tables

theorem ofLists_eq_error_iff :
    ofLists specs registers = .error error ↔ firstConflict? specs registers = some error := by
  unfold ofLists
  split
  · next h => rw [h, Except.error.injEq, Option.some.injEq]
  · next h => simp [h]

theorem ofLists_eq_error_of_specs (hscan : scan? Spec.conflict? [] specs = some error) :
    ofLists specs registers = .error error := by
  rw [ofLists_eq_error_iff, firstConflict?, hscan]

theorem ofLists_eq_error_of_registers (hspecs : Consistent specs [])
    (hscan : scan? Register.conflict? [] registers = some error) :
    ofLists specs registers = .error error := by
  rw [ofLists_eq_error_iff, firstConflict?, (scan?_specs_eq_none_iff specs).2 hspecs, hscan]

theorem ofLists_refused (specs : List Spec) (registers : List Register)
    (hrefused : ¬ ∃ tables, ofLists specs registers = .ok tables) :
    ((∃ entries, entries <+: specs ∧ ¬ Consistent entries []) →
      ∃ earlier spec error, Breaks (Consistent · []) specs earlier spec ∧
        (∀ other, spec.Refused earlier other ↔ other = error) ∧
        ofLists specs registers = .error error ∧
        ∀ specs' registers', earlier ++ [spec] <+: specs' →
          ofLists specs' registers' = .error error) ∧
      ((∀ entries, entries <+: specs → Consistent entries []) →
        ∃ earlier register error, Breaks (Consistent [] ·) registers earlier register ∧
          (∀ other, register.Refused earlier other ↔ other = error) ∧
          (register.number ≤ 31 → error.message = "register $" ++
            (if ∃ r ∈ earlier, r.number = register.number then toString register.number
              else register.name) ++ " is declared twice") ∧
          ofLists specs registers = .error error ∧
          ∀ specs' registers', Consistent specs' [] → earlier ++ [register] <+: registers' →
            ofLists specs' registers' = .error error) := by
  rw [exists_ofLists_eq_ok_iff, consistent_iff] at hrefused
  constructor
  · rintro ⟨entries, hstart, hentries⟩
    have hspecs : ¬ Consistent specs [] := fun hspecs => hentries (hspecs.of_start hstart)
    obtain ⟨earlier, spec, error, hbreaks, hspec, hscan⟩ :=
      exists_breaks scan?_specs_eq_none_iff
        (fun earlier spec error hearlier => Spec.conflict?_eq_some_iff hearlier.specs_distinct) hspecs
    refine ⟨earlier, spec, error, hbreaks, hspec, ?_, ?_⟩
    · exact ofLists_eq_error_of_specs (hscan specs hbreaks.start)
    · intro specs' registers' hstart
      exact ofLists_eq_error_of_specs (hscan specs' hstart)
  · intro hentries
    have hspecs : Consistent specs [] := hentries specs List.prefix_rfl
    have hregisters : ¬ Consistent [] registers := fun hregisters => hrefused ⟨hspecs, hregisters⟩
    obtain ⟨earlier, register, error, hbreaks, hregister, hscan⟩ :=
      exists_breaks scan?_registers_eq_none_iff
        (fun earlier register error _ => Register.conflict?_eq_some_iff) hregisters
    have herror : register.Refused earlier error := (hregister error).2 rfl
    refine ⟨earlier, register, error, hbreaks, hregister, herror.message_eq, ?_, ?_⟩
    · exact ofLists_eq_error_of_registers hspecs (hscan registers hbreaks.start)
    · intro specs' registers' hspecs' hstart
      exact ofLists_eq_error_of_registers hspecs' (hscan registers' hstart)

def sharingSpecs : List Spec :=
  [⟨"lw", 35, none, .i, "Load Word"⟩,
   ⟨"again", 35, none, .i, "Load Word Again"⟩,
   ⟨"nop", 0, none, .i, "No Operation"⟩]

def sharingRegisters : List Register :=
  [⟨7, "a"⟩, ⟨8, "a"⟩, ⟨32, "b"⟩]

theorem ofLists_refused_sharing :
    (¬ ∃ tables, ofLists sharingSpecs sharingRegisters = .ok tables) ∧
      (∃ earlier spec, Breaks (Consistent · []) sharingSpecs earlier spec ∧
        spec.Refused earlier (.duplicateOpcode 35 "lw" "again")) ∧
      (¬ ∃ tables, ofLists builtinSpecs sharingRegisters = .ok tables) ∧
      ∃ earlier register, Breaks (Consistent [] ·) sharingRegisters earlier register ∧
        register.Refused earlier (.duplicateRegisterName "a") := by
  have hspecs : ofLists sharingSpecs sharingRegisters
      = .error (.duplicateOpcode 35 "lw" "again") := by
    rw [ofLists_eq_error_iff]
    decide
  have hregisters : ofLists builtinSpecs sharingRegisters = .error (.duplicateRegisterName "a") := by
    rw [ofLists_eq_error_iff]
    decide +kernel
  have hrefused : ¬ ∃ tables, ofLists sharingSpecs sharingRegisters = .ok tables := by
    simp [hspecs]
  have hrefused' : ¬ ∃ tables, ofLists builtinSpecs sharingRegisters = .ok tables := by
    simp [hregisters]
  have hinconsistent : ¬ Consistent sharingSpecs [] := by
    rw [← firstConflict?_eq_none_iff]
    decide
  have hconsistent : Consistent builtinSpecs [] := (consistent_iff.1 builtin.consistent).1
  obtain ⟨earlier, spec, error, hbreaks, hspec, herror, -⟩ :=
    (ofLists_refused sharingSpecs sharingRegisters hrefused).1
      ⟨sharingSpecs, List.prefix_rfl, hinconsistent⟩
  obtain ⟨earlier', register, error', hbreaks', hregister, -, herror', -⟩ :=
    (ofLists_refused builtinSpecs sharingRegisters hrefused').2
      fun entries hstart => hconsistent.of_start hstart
  rw [hspecs, Except.error.injEq] at herror
  rw [hregisters, Except.error.injEq] at herror'
  exact ⟨hrefused, ⟨earlier, spec, hbreaks, (hspec _).2 herror⟩, hrefused',
    earlier', register, hbreaks', (hregister _).2 herror'⟩

end Tables
end MipsWord
