import ClientGen.Profile

namespace ClientGen

def Profile.standard : Profile where
  clientBase := TextOption.clientBase.default
  transportMethod := TextOption.transportMethod.default
  multiArgumentType := TextOption.multiArgumentType.default
  multiArgumentName := TextOption.multiArgumentName.default
  requestInterface := TextOption.requestInterface.default
  resultInterface := TextOption.resultInterface.default
  faultType := TextOption.faultType.default
  methodCase := .camel
  futureAnnotations := true
  transportMethod_ok := by decide
  multiArgumentName_ok := by decide

theorem TextOption.ofKey?_key (o : TextOption) : ofKey? o.key = some o := by
  cases o <;> decide

theorem TextOption.key_ne_futureAnnotations (o : TextOption) : o.key ≠ futureAnnotationsKey := by
  cases o <;> decide

theorem TextOption.key_inj {o o' : TextOption} (h : o.key = o'.key) : o = o' :=
  Option.some.inj ((ofKey?_key o).symm.trans ((congrArg ofKey? h).trans (ofKey?_key o')))

theorem isOptionKey_key (o : TextOption) : isOptionKey o.key = true := by
  rw [isOptionKey, o.ofKey?_key, Option.isSome_some, Bool.or_true]

namespace Settings

theorem set?_text (s : Settings) (o : TextOption) (v : String) :
    s.set? o.key (.text v) = some (s.setText o v) := by
  unfold set?
  rw [if_neg (mt eq_of_beq o.key_ne_futureAnnotations), o.ofKey?_key]

/-- Settings give a profile if the method case is one that is offered, and the names that are
written as they are can be written so. -/
theorem exists_profile {s : Settings} {c : MethodCase}
    (hc : MethodCase.ofLabel? (s.text .methodCase) = some c)
    (ht : isIdentifier (s.text .transportMethod) = true)
    (hm : isParameterName (s.text .multiArgumentName) = true) : ∃ p, s.profile = .ok p := by
  rw [profile, hc]
  simp only [dif_pos ht, dif_pos hm]
  exact ⟨_, rfl⟩

theorem profile_of_noMethodCase {s : Settings} (h : MethodCase.ofLabel? (s.text .methodCase) = none) :
    s.profile = .error (.unsupportedMethodCase (s.text .methodCase)) := by
  rw [profile, h]

end Settings

theorem MethodCase.ofLabel?_label (c : MethodCase) : ofLabel? c.label = some c := by
  cases c <;> decide

theorem Profile.profile_settings (p : Profile) : p.settings.profile = .ok p := by
  have hc : MethodCase.ofLabel? (p.settings.text .methodCase) = some p.methodCase :=
    p.methodCase.ofLabel?_label
  have ht : isIdentifier (p.settings.text .transportMethod) = true := p.transportMethod_ok
  have hm : isParameterName (p.settings.text .multiArgumentName) = true := p.multiArgumentName_ok
  rw [Settings.profile, hc]
  simp only [dif_pos ht, dif_pos hm]
  rfl

end ClientGen
