import ClientGen.Proofs.ImportOrder
import ClientGen.Proofs.Overrides

namespace ClientGen
variable {entries : List (String × Datum)}

namespace Datum
variable {key : String} {value : Datum}

theorem lookup_eq_some_iff_mem (hkeys : (entries.map Prod.fst).Nodup) :
    entries.lookup key = some value ↔ (key, value) ∈ entries := by
  constructor
  · intro h
    obtain ⟨before, after, rfl, -⟩ := List.lookup_eq_some_iff.1 h
    exact List.mem_append_right before List.mem_cons_self
  · intro h
    obtain ⟨before, after, rfl⟩ := List.append_of_mem h
    refine List.lookup_eq_some_iff.2 ⟨before, after, rfl, fun e he => ?_⟩
    rw [bne_iff_ne]
    rintro rfl
    rw [List.map_append, List.map_cons, List.nodup_append] at hkeys
    exact hkeys.2.2 e.1 (List.mem_map_of_mem he) e.1 List.mem_cons_self rfl

theorem lookup_of_fresh (h : key ∉ entries.map Prod.fst) : entries.lookup key = none := by
  refine List.lookup_eq_none_iff.2 fun e he => ?_
  rw [bne_iff_ne]
  rintro rfl
  exact h (List.mem_map_of_mem he)

theorem lookup_of_perm {entries' : List (String × Datum)} (hkeys : (entries.map Prod.fst).Nodup)
    (h : entries'.Perm entries) (key : String) : entries'.lookup key = entries.lookup key := by
  have hkeys' : (entries'.map Prod.fst).Nodup := (h.map Prod.fst).nodup_iff.2 hkeys
  apply Option.ext
  intro value
  rw [lookup_eq_some_iff_mem hkeys', lookup_eq_some_iff_mem hkeys, h.mem_iff]

end Datum

def optionKeys : List String :=
  ["client_base", "transport_method", "multi_argument_type", "multi_argument_name",
    "request_interface", "result_interface", "fault_type", "method_case", "use_future_annotations"]

theorem mem_optionKeys_iff {key : String} :
    key ∈ optionKeys ↔
      (∃ o ∈ TextOption.all, TextOption.key o = key) ∨ key = futureAnnotationsKey := by
  have hkeys : optionKeys = TextOption.all.map TextOption.key ++ [futureAnnotationsKey] := rfl
  rw [hkeys, List.mem_append, List.mem_map, List.mem_singleton]

theorem isOptionKey_iff {key : String} : isOptionKey key = true ↔ key ∈ optionKeys := by
  rw [isOptionKey, TextOption.ofKey?, mem_optionKeys_iff, Bool.or_eq_true, List.find?_isSome,
    beq_iff_eq, or_comm]
  simp only [beq_iff_eq]

/-- Whether a value is of the type that an option takes: one takes a flag, all others take a
text. -/
def HasOptionType (key : String) (value : Datum) : Prop :=
  if key = futureAnnotationsKey then ∃ b, value = .flag b else ∃ v, value = .text v

theorem fitsOption_iff {key : String} {value : Datum} :
    FitsOption key value ↔ key ∈ optionKeys ∧ HasOptionType key value := by
  constructor
  · intro h
    refine ⟨isOptionKey_iff.1 h.isOptionKey, ?_⟩
    cases h with
    | flag b => exact ⟨b, rfl⟩
    | text o v =>
      rw [HasOptionType, if_neg o.key_ne_futureAnnotations]
      exact ⟨v, rfl⟩
  · rintro ⟨hkey, htype⟩
    rw [HasOptionType] at htype
    split at htype
    · next hk =>
      obtain ⟨b, rfl⟩ := htype
      rw [hk]
      exact .flag b
    · next hk =>
      obtain ⟨v, rfl⟩ := htype
      obtain ⟨o, -, rfl⟩ := (mem_optionKeys_iff.1 hkey).resolve_right hk
      exact .text o v

def typeFault (key : String) : ProfileFault :=
  if key = futureAnnotationsKey then .optionNotFlag key else .optionNotText key

/-- Whether a text names a method case. -/
def IsCaseLabel (label : String) : Prop :=
  label = "camel" ∨ label = "snake"

/-- Whether a name can stand in a parameter list behind `self`. -/
def IsArgumentName (name : String) : Prop :=
  isIdentifier name = true ∧ isKeyword name = false ∧ name ≠ "self"

theorem ofLabel?_eq_none_iff {label : String} :
    MethodCase.ofLabel? label = none ↔ ¬IsCaseLabel label := by
  rw [MethodCase.ofLabel?, List.find?_eq_none, IsCaseLabel]
  simp only [MethodCase.all, List.forall_mem_cons, MethodCase.label, beq_iff_eq, List.not_mem_nil,
    false_implies, implies_true, and_true, not_or, @eq_comm _ label]

theorem exists_ofLabel? {label : String} (h : IsCaseLabel label) :
    ∃ c, MethodCase.ofLabel? label = some c :=
  Option.ne_none_iff_exists'.1 fun hnone => ofLabel?_eq_none_iff.1 hnone h

namespace Settings
variable {s s' : Settings}

def updated (s : Settings) (entries : List (String × Datum)) : Settings where
  text o := match entries.lookup o.key with
    | some (.text v) => v
    | _ => s.text o
  futureAnnotations := match entries.lookup futureAnnotationsKey with
    | some (.flag b) => b
    | _ => s.futureAnnotations

theorem updated_cons {key : String} {value : Datum} (h : s.set? key value = some s')
    (hfresh : key ∉ entries.map Prod.fst) :
    s'.updated entries = s.updated ((key, value) :: entries) := by
  have hnone := Datum.lookup_of_fresh hfresh
  have hne : ∀ o : TextOption, (o.key == futureAnnotationsKey) = false :=
    fun o => beq_eq_false_iff_ne.2 o.key_ne_futureAnnotations
  cases fitsOption_of_set? h with
  | flag b =>
    rw [set?_flag] at h
    cases h
    simp only [updated, List.lookup_cons, hne, beq_self_eq_true, hnone]
  | text o v =>
    rw [set?_text] at h
    cases h
    have hne' : (futureAnnotationsKey == o.key) = false := (BEq.comm).trans (hne o)
    simp only [updated, List.lookup_cons, hne', setText, mk.injEq, and_true]
    funext o'
    by_cases ho : o' = o
    · rw [ho, hnone, beq_self_eq_true]
      exact if_pos rfl
    · have hkey : (o'.key == o.key) = false :=
        beq_eq_false_iff_ne.2 fun he => ho (TextOption.key_inj he)
      rw [hkey, if_neg ho]

theorem updated_of_perm {entries' : List (String × Datum)} (hkeys : (entries.map Prod.fst).Nodup)
    (h : entries'.Perm entries) (s : Settings) : s.updated entries' = s.updated entries := by
  simp only [updated, Datum.lookup_of_perm hkeys h]

theorem setAll_of_fits (hkeys : (entries.map Prod.fst).Nodup)
    (h : ∀ e ∈ entries, FitsOption e.1 e.2) (s : Settings) :
    s.setAll entries = .ok (s.updated entries) := by
  induction entries generalizing s with
  | nil => rfl
  | cons e entries ih =>
    obtain ⟨key, value⟩ := e
    obtain ⟨hfresh, hkeys⟩ := List.nodup_cons.1 hkeys
    obtain ⟨s', hs⟩ := exists_set? (h (key, value) List.mem_cons_self) s
    rw [setAll_cons_of_set? hs, ih hkeys fun e he => h e (List.mem_cons_of_mem _ he),
      updated_cons hs hfresh]

theorem setAll_of_misfit {before : List (String × Datum)} {key : String} {value : Datum}
    (hfit : ∀ e ∈ before, FitsOption e.1 e.2) (hmisfit : ¬FitsOption key value) (s : Settings)
    (after : List (String × Datum)) :
    s.setAll (before ++ (key, value) :: after) = .error (typeFault key) := by
  induction before generalizing s with
  | nil =>
    have hnone : s.set? key value = none :=
      Option.eq_none_iff_forall_ne_some.2 fun _ hs => hmisfit (fitsOption_of_set? hs)
    rw [List.nil_append, setAll, hnone, typeFault]
    simp only [beq_iff_eq]
  | cons e before ih =>
    obtain ⟨s', hs⟩ := exists_set? (hfit e List.mem_cons_self) s
    rw [List.cons_append, setAll_cons_of_set? hs]
    exact ih (fun e he => hfit e (List.mem_cons_of_mem _ he)) s'

/-- Whether code can be generated with the settings. -/
structure IsUsable (s : Settings) : Prop where
  methodCase : IsCaseLabel (s.text .methodCase)
  transportMethod : isIdentifier (s.text .transportMethod) = true
  multiArgumentName : IsArgumentName (s.text .multiArgumentName)

/-- Which of the settings is told if no code can be generated with them. -/
inductive Rejects (s : Settings) : ProfileFault → Prop where
  | methodCase (wrong : ¬IsCaseLabel (s.text .methodCase)) :
    Rejects s (.unsupportedMethodCase (s.text .methodCase))
  | transportMethod (methodCase : IsCaseLabel (s.text .methodCase))
      (wrong : isIdentifier (s.text .transportMethod) = false) :
    Rejects s (.invalidTransportMethod (s.text .transportMethod))
  | multiArgumentName (methodCase : IsCaseLabel (s.text .methodCase))
      (transportMethod : isIdentifier (s.text .transportMethod) = true)
      (wrong : ¬IsArgumentName (s.text .multiArgumentName)) :
    Rejects s (.invalidMultiArgumentName (s.text .multiArgumentName))

theorem profile_of_rejects {fault : ProfileFault} (h : s.Rejects fault) :
    s.profile = .error fault := by
  cases h with
  | methodCase wrong => exact profile_of_noMethodCase (ofLabel?_eq_none_iff.2 wrong)
  | transportMethod methodCase wrong =>
    obtain ⟨c, hc⟩ := exists_ofLabel? methodCase
    rw [profile, hc]
    exact dif_neg (Bool.eq_false_iff.1 wrong)
  | multiArgumentName methodCase transportMethod wrong =>
    obtain ⟨c, hc⟩ := exists_ofLabel? methodCase
    rw [profile, hc]
    simp only [dif_pos transportMethod, dif_neg (mt isParameterName_iff.1 wrong)]

theorem isUsable_or_rejects (s : Settings) : s.IsUsable ∨ ∃ fault, s.Rejects fault := by
  by_cases methodCase : IsCaseLabel (s.text .methodCase)
  · by_cases transportMethod : isIdentifier (s.text .transportMethod) = true
    · by_cases multiArgumentName : IsArgumentName (s.text .multiArgumentName)
      · exact .inl ⟨methodCase, transportMethod, multiArgumentName⟩
      · exact .inr ⟨_, .multiArgumentName methodCase transportMethod multiArgumentName⟩
    · exact .inr ⟨_, .transportMethod methodCase (Bool.eq_false_iff.2 transportMethod)⟩
  · exact .inr ⟨_, .methodCase methodCase⟩

theorem profile_of_isUsable (h : s.IsUsable) : ∃ p, s.profile = .ok p := by
  obtain ⟨c, hc⟩ := exists_ofLabel? h.methodCase
  exact exists_profile hc h.transportMethod (isParameterName_iff.2 h.multiArgumentName)

theorem exists_profile_iff : (∃ p, s.profile = .ok p) ↔ s.IsUsable := by
  refine ⟨fun ⟨p, hp⟩ => s.isUsable_or_rejects.resolve_right ?_, profile_of_isUsable⟩
  rintro ⟨fault, hr⟩
  cases hp.symm.trans (profile_of_rejects hr)

end Settings

/-- Whether options are known, of their types, and come to settings that code can be generated
with. -/
structure AreAcceptable (entries : List (String × Datum)) : Prop where
  known : ∀ k ∈ entries.map Prod.fst, k ∈ optionKeys
  typed : ∀ e ∈ entries, HasOptionType e.1 e.2
  usable : (Settings.updated {} entries).IsUsable

/-- What is told of options that are not acceptable. -/
inductive OptionsTell (entries : List (String × Datum)) : ProfileFault → Prop where
  | unknown {keys : List String} (some : keys ≠ []) (ascending : keys.Pairwise (· < ·))
      (all : ∀ k, k ∈ keys ↔ k ∈ entries.map Prod.fst ∧ k ∉ optionKeys) :
    OptionsTell entries (.unknownOptions keys)
  | wrongType {before after : List (String × Datum)} {key : String} {value : Datum}
      (known : ∀ k ∈ entries.map Prod.fst, k ∈ optionKeys)
      (place : entries = before ++ (key, value) :: after)
      (typed : ∀ e ∈ before, HasOptionType e.1 e.2) (wrong : ¬HasOptionType key value) :
    OptionsTell entries (typeFault key)
  | unusable {fault : ProfileFault} (known : ∀ k ∈ entries.map Prod.fst, k ∈ optionKeys)
      (typed : ∀ e ∈ entries, HasOptionType e.1 e.2)
      (rejects : (Settings.updated {} entries).Rejects fault) : OptionsTell entries fault

namespace Profile
variable {fault : ProfileFault}

theorem ofEntries_of_unknown {keys : List String} (hkeys : (entries.map Prod.fst).Nodup)
    (some : keys ≠ []) (ascending : keys.Pairwise (· < ·))
    (all : ∀ k, k ∈ keys ↔ k ∈ entries.map Prod.fst ∧ k ∉ optionKeys) :
    ofEntries entries = .error (.unknownOptions keys) := by
  have hsorted : sortNames ((entries.map Prod.fst).filter fun k => !isOptionKey k) = keys := by
    refine (pairwise_sortNames (hkeys.filter _)).eq_of_mem_iff ascending fun k => ?_
    rw [mem_sortNames_iff, List.mem_filter, all, Bool.not_eq_true', ← Bool.not_eq_true,
      isOptionKey_iff]
  rw [ofEntries, hsorted]
  obtain ⟨k, ks, rfl⟩ := List.exists_cons_of_ne_nil some
  rfl

theorem ofEntries_of_typed (hkeys : (entries.map Prod.fst).Nodup)
    (known : ∀ k ∈ entries.map Prod.fst, k ∈ optionKeys)
    (typed : ∀ e ∈ entries, HasOptionType e.1 e.2) :
    ofEntries entries = (Settings.updated {} entries).profile := by
  have hfit : ∀ e ∈ entries, FitsOption e.1 e.2 := fun e he =>
    fitsOption_iff.2 ⟨known e.1 (List.mem_map_of_mem he), typed e he⟩
  rw [ofEntries_of_known fun k hk => isOptionKey_iff.2 (known k hk),
    Settings.setAll_of_fits hkeys hfit]
  rfl

theorem ofEntries_of_tell (hkeys : (entries.map Prod.fst).Nodup) (h : OptionsTell entries fault) :
    ofEntries entries = .error fault := by
  cases h with
  | unknown some ascending all => exact ofEntries_of_unknown hkeys some ascending all
  | @wrongType before after key value known place typed wrong =>
    rw [ofEntries_of_known fun k hk => isOptionKey_iff.2 (known k hk)]
    subst place
    have hfit : ∀ e ∈ before, FitsOption e.1 e.2 := fun e he =>
      fitsOption_iff.2 ⟨known e.1 (List.mem_map_of_mem (List.mem_append_left _ he)), typed e he⟩
    rw [Settings.setAll_of_misfit hfit fun hmisfit => wrong (fitsOption_iff.1 hmisfit).2]
    rfl
  | unusable known typed rejects =>
    rw [ofEntries_of_typed hkeys known typed]
    exact Settings.profile_of_rejects rejects

theorem exists_unknown (hkeys : (entries.map Prod.fst).Nodup)
    (h : ¬∀ k ∈ entries.map Prod.fst, k ∈ optionKeys) : ∃ fault, OptionsTell entries fault := by
  have hmem : ∀ k, k ∈ sortNames ((entries.map Prod.fst).filter (· ∉ optionKeys)) ↔
      k ∈ entries.map Prod.fst ∧ k ∉ optionKeys := by
    intro k
    rw [mem_sortNames_iff, List.mem_filter, decide_eq_true_iff]
  push Not at h
  obtain ⟨k, hk, hunknown⟩ := h
  have some := List.ne_nil_of_mem ((hmem k).2 ⟨hk, hunknown⟩)
  exact ⟨_, .unknown some (pairwise_sortNames (hkeys.filter _)) hmem⟩

theorem exists_wrongType (known : ∀ k ∈ entries.map Prod.fst, k ∈ optionKeys)
    (h : ¬∀ e ∈ entries, HasOptionType e.1 e.2) : ∃ fault, OptionsTell entries fault := by
  classical
  cases hf : entries.find? fun e => decide ¬HasOptionType e.1 e.2 with
  | none =>
    rw [List.find?_eq_none] at hf
    exact absurd (fun e he => by simpa using hf e he) h
  | some e =>
    obtain ⟨hwrong, before, after, place, htyped⟩ := List.find?_eq_some_iff_append.1 hf
    refine ⟨_, .wrongType known place (fun b hb => ?_) (of_decide_eq_true hwrong)⟩
    simpa using htyped b hb

theorem areAcceptable_or_tell (hkeys : (entries.map Prod.fst).Nodup) :
    AreAcceptable entries ∨ ∃ fault, OptionsTell entries fault := by
  by_cases known : ∀ k ∈ entries.map Prod.fst, k ∈ optionKeys
  · by_cases typed : ∀ e ∈ entries, HasOptionType e.1 e.2
    · rcases (Settings.updated {} entries).isUsable_or_rejects with usable | ⟨fault, rejects⟩
      · exact .inl ⟨known, typed, usable⟩
      · exact .inr ⟨fault, .unusable known typed rejects⟩
    · exact .inr (exists_wrongType known typed)
  · exact .inr (exists_unknown hkeys known)

theorem ofEntries_of_acceptable (hkeys : (entries.map Prod.fst).Nodup) (h : AreAcceptable entries) :
    ∃ p, ofEntries entries = .ok p ∧ p.settings = Settings.updated {} entries := by
  obtain ⟨p, hp⟩ := Settings.profile_of_isUsable h.usable
  exact ⟨p, (ofEntries_of_typed hkeys h.known h.typed).trans hp, Settings.settings_of_profile hp⟩

theorem ofEntries_eq_error_iff (hkeys : (entries.map Prod.fst).Nodup) :
    ofEntries entries = .error fault ↔ OptionsTell entries fault := by
  refine ⟨fun h => ?_, ofEntries_of_tell hkeys⟩
  rcases areAcceptable_or_tell hkeys with hacceptable | ⟨fault', htell⟩
  · obtain ⟨p, hp, -⟩ := ofEntries_of_acceptable hkeys hacceptable
    cases hp.symm.trans h
  · cases (ofEntries_of_tell hkeys htell).symm.trans h
    exact htell

theorem ofEntries_eq_ok_iff (hkeys : (entries.map Prod.fst).Nodup) {p : Profile} :
    ofEntries entries = .ok p ↔ AreAcceptable entries ∧ p.settings = Settings.updated {} entries := by
  constructor
  · intro h
    rcases areAcceptable_or_tell hkeys with hacceptable | ⟨fault, htell⟩
    · obtain ⟨p', hp', hs⟩ := ofEntries_of_acceptable hkeys hacceptable
      cases hp'.symm.trans h
      exact ⟨hacceptable, hs⟩
    · cases (ofEntries_of_tell hkeys htell).symm.trans h
  · rintro ⟨hacceptable, hs⟩
    rw [ofEntries_of_typed hkeys hacceptable.known hacceptable.typed, ← hs, p.profile_settings]

end Profile

theorem AreAcceptable.of_perm {entries' : List (String × Datum)}
    (hkeys : (entries.map Prod.fst).Nodup) (h : entries'.Perm entries) (ha : AreAcceptable entries) :
    AreAcceptable entries' where
  known k hk := ha.known k ((h.map Prod.fst).mem_iff.1 hk)
  typed e he := ha.typed e (h.mem_iff.1 he)
  usable := by
    rw [Settings.updated_of_perm hkeys h]
    exact ha.usable

/-- Options are accepted exactly if all are known, their values are of their types, and what they
come to names a method case, a transport method and an argument. The profile has the values that are
given and the defaults elsewhere. The same options in another order give the same profile, or are
not accepted either; what is told of options that are not accepted is settled in three stages. -/
theorem Profile.ofEntries_orderless (hkeys : (entries.map Prod.fst).Nodup) :
    ((∃ p, Profile.ofEntries entries = .ok p) ↔ AreAcceptable entries) ∧
    (∀ p, Profile.ofEntries entries = .ok p → p.settings = Settings.updated {} entries) ∧
    (∀ entries', entries'.Perm entries →
      ∀ p, Profile.ofEntries entries' = .ok p ↔ Profile.ofEntries entries = .ok p) ∧
    ∀ fault, Profile.ofEntries entries = .error fault ↔ OptionsTell entries fault := by
  refine ⟨⟨?_, ?_⟩, ?_, ?_, fun fault => ofEntries_eq_error_iff hkeys⟩
  · rintro ⟨p, hp⟩
    exact ((ofEntries_eq_ok_iff hkeys).1 hp).1
  · intro h
    obtain ⟨p, hp, -⟩ := ofEntries_of_acceptable hkeys h
    exact ⟨p, hp⟩
  · intro p hp
    exact ((ofEntries_eq_ok_iff hkeys).1 hp).2
  · intro entries' h p
    have hkeys' : (entries'.map Prod.fst).Nodup := (h.map Prod.fst).nodup_iff.2 hkeys
    have hacceptable : AreAcceptable entries' ↔ AreAcceptable entries :=
      ⟨fun ha => ha.of_perm hkeys' h.symm, fun ha => ha.of_perm hkeys h⟩
    rw [ofEntries_eq_ok_iff hkeys', ofEntries_eq_ok_iff hkeys, hacceptable,
      Settings.updated_of_perm hkeys h]

/-- Options with an unknown method case in front of two values of the wrong type. -/
def mistypedOptions : List (String × Datum) :=
  [("method_case", .text "kebab"), ("fault_type", .other "3"), ("use_future_annotations", .text "yes")]

theorem mistypedOptions_told :
    (mistypedOptions.map Prod.fst).Nodup ∧
      Profile.ofEntries mistypedOptions = .error (.optionNotText "fault_type") := by
  have hkeys : (mistypedOptions.map Prod.fst).Nodup := by decide
  have htells := (Profile.ofEntries_orderless hkeys).2.2.2 (typeFault "fault_type")
  have hplace : mistypedOptions = [("method_case", .text "kebab")] ++
      ("fault_type", .other "3") :: [("use_future_annotations", .text "yes")] := rfl
  refine ⟨hkeys, htells.2 (.wrongType (by decide) hplace ?_ ?_)⟩
  · intro e he
    cases List.mem_singleton.1 he
    exact ⟨"kebab", rfl⟩
  · rintro ⟨v, ⟨⟩⟩

/-- Whatever order two options stand in, both are set and the others keep their defaults. -/
example : ∃ p, Profile.ofEntries [("method_case", .text "snake"), ("fault_type", .text "a.B")] = .ok p ∧
    Profile.ofEntries [("fault_type", .text "a.B"), ("method_case", .text "snake")] = .ok p :=
  ⟨{ Profile.standard with methodCase := .snake, faultType := "a.B" }, rfl, rfl⟩

end ClientGen
