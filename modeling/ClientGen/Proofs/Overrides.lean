import ClientGen.Proofs.Entries
import ClientGen.Proofs.Failures
import ClientGen.Proofs.JsonText
import ClientGen.Proofs.Spelling

namespace ClientGen

/-- Whether a value is of the type of an option. -/
inductive FitsOption : String → Datum → Prop where
  | flag (b : Bool) : FitsOption futureAnnotationsKey (.flag b)
  | text (o : TextOption) (v : String) : FitsOption o.key (.text v)

theorem FitsOption.isOptionKey {key : String} {value : Datum} (h : FitsOption key value) :
    isOptionKey key = true := by
  cases h with
  | flag b => rfl
  | text o v => exact isOptionKey_key o

namespace Settings
variable {s s' s₁ s₂ : Settings} {key : String} {value : Datum}

theorem set?_flag (s : Settings) (b : Bool) :
    s.set? futureAnnotationsKey (.flag b) = some { s with futureAnnotations := b } :=
  rfl

theorem exists_set? (h : FitsOption key value) (s : Settings) : ∃ s', s.set? key value = some s' := by
  cases h with
  | flag b => exact ⟨_, s.set?_flag b⟩
  | text o v => exact ⟨_, s.set?_text o v⟩

theorem fitsOption_of_set? (h : s.set? key value = some s') : FitsOption key value := by
  unfold set? at h
  split at h
  · next hk =>
    rw [eq_of_beq hk]
    cases value with
    | flag b => exact .flag b
    | _ => cases h
  · cases ho : TextOption.ofKey? key with
    | none =>
      rw [ho] at h
      cases h
    | some o =>
      rw [ho] at h
      have hkey := List.find?_some (p := fun o' : TextOption => o'.key == key) ho
      rw [← eq_of_beq hkey]
      cases value with
      | text v => exact .text o v
      | _ => cases h

theorem setAll_cons_of_set? (h : s.set? key value = some s') (rest : List (String × Datum)) :
    s.setAll ((key, value) :: rest) = s'.setAll rest := by
  rw [setAll, h]

theorem settings_of_profile {p : Profile} (h : s.profile = .ok p) : p.settings = s := by
  rw [profile] at h
  split at h
  · cases h
  · next c hc =>
    have hlabel := List.find?_some (p := fun c' : MethodCase => c'.label == s.text .methodCase) hc
    split at h
    · split at h
      · cases h
        obtain ⟨text, future⟩ := s
        rw [Profile.settings]
        congr
        funext o
        cases o
        case methodCase => exact eq_of_beq hlabel
        all_goals rfl
      · cases h
    · cases h

end Settings

namespace Profile

theorem ofEntries_of_known {entries : List (String × Datum)}
    (h : ∀ k ∈ entries.map Prod.fst, isOptionKey k = true) :
    ofEntries entries = (do (← Settings.setAll {} entries).profile) := by
  have hunknown : (entries.map Prod.fst).filter (fun k => !isOptionKey k) = [] := by
    apply List.filter_eq_nil_iff.2
    intro k hk
    rw [h k hk]
    exact Bool.false_ne_true
  rw [ofEntries, hunknown]
  rfl

end Profile

namespace Document
variable {es options overrides : List (String × Datum)}

end Document

section
variable {es options overrides : List (String × Datum)} {p : Profile}

end

namespace CommandLine

end CommandLine

end ClientGen
