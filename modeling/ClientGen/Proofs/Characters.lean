import ClientGen.Unicode.Case
import ClientGen.Unicode.Identifier
import ClientGen.Unicode.Printable
import ClientGen.Unicode.Space

namespace ClientGen.Unicode

/-- A decidable property of characters below 128 is tested one by one. -/
theorem of_ascii {q : Char → Bool}
    (h : ((List.range 128).all fun n => q (Char.ofNat n)) = true) {c : Char}
    (hc : c.toNat < 128) : q c = true := by
  have hq := List.all_eq_true.1 h c.toNat (List.mem_range.2 hc)
  rwa [Char.ofNat_toNat] at hq

/-- Whether all of an interval lies in one of the ranges. -/
def Ranges.covers (rs : Ranges) (first last : Nat) : Bool :=
  rs.any fun r => Nat.ble r.1 first && Nat.ble last r.2

theorem Ranges.covers_iff {rs : Ranges} {first last : Nat} :
    rs.covers first last = true ↔ ∃ r ∈ rs, r.1 ≤ first ∧ last ≤ r.2 := by
  simp [covers]

/-- Whether the ranges hold characters only, and none below 128. -/
def Ranges.beyondAscii (rs : Ranges) : Bool :=
  rs.all fun r => Nat.ble 0x80 r.1 &&
    (Nat.ble r.2 0xd7ff || (Nat.ble 0xe000 r.1 && Nat.ble r.2 0x10ffff))

theorem Ranges.isValidChar_of_has {rs : Ranges} (h : rs.beyondAscii = true) {n : Nat}
    (hn : rs.has n = true) : n.isValidChar ∧ 128 ≤ n := by
  obtain ⟨r, hr, hfirst, hlast⟩ := has_iff.1 hn
  have hb := List.all_eq_true.1 h r hr
  simp only [Bool.and_eq_true, Bool.or_eq_true, Nat.ble_eq] at hb
  rw [Nat.isValidChar]
  omega

theorem idStartRanges_beyondAscii : idStartRanges.beyondAscii = true := by
  decide +kernel

theorem isIdContinue_of_has {n : Nat} (h : idStartRanges.has n = true) :
    isIdContinue (Char.ofNat n) = true := by
  obtain ⟨hvalid, hge⟩ := Ranges.isValidChar_of_has idStartRanges_beyondAscii h
  have hn : (Char.ofNat n).toNat = n := by
    rw [Char.ofNat, dif_pos hvalid]
    rfl
  rw [isIdContinue, hn, if_neg (Nat.not_lt.2 hge), h, Bool.true_or]

/-- Whether a run leads from characters of identifiers to such: the image lies in one range, or the
characters are tested one by one. -/
def CaseRun.keepsIdentifiers (r : CaseRun) : Bool :=
  idStartRanges.covers r.target (r.target + (r.last - r.first)) ||
    (List.range (r.last - r.first + 1)).all fun k =>
      k % r.step != 0 || !isIdContinue (Char.ofNat (r.first + k)) ||
        isIdContinue (Char.ofNat (r.target + k))

theorem CaseRun.image?_eq_some_iff {r : CaseRun} {n m : Nat} :
    r.image? n = some m ↔
      r.first ≤ n ∧ n ≤ r.last ∧ (n - r.first) % r.step = 0 ∧ m = r.target + (n - r.first) := by
  rw [image?, Option.ite_none_right_eq_some, Option.some.injEq,
    @eq_comm _ (r.target + (n - r.first)) m]
  simp only [Bool.and_eq_true, Nat.ble_eq, beq_iff_eq, and_assoc]

theorem CaseRun.isIdContinue_image {r : CaseRun} (h : r.keepsIdentifiers = true) {n m : Nat}
    (hm : r.image? n = some m) (hn : isIdContinue (Char.ofNat n) = true) :
    isIdContinue (Char.ofNat m) = true := by
  obtain ⟨hfirst, hlast, hstep, rfl⟩ := image?_eq_some_iff.1 hm
  rw [keepsIdentifiers, Bool.or_eq_true] at h
  rcases h with hcovers | htested
  · obtain ⟨s, hs, h₁, h₂⟩ := Ranges.covers_iff.1 hcovers
    apply isIdContinue_of_has
    exact Ranges.has_iff.2 ⟨s, hs, by omega, by omega⟩
  · have hk := List.all_eq_true.1 htested (n - r.first) (List.mem_range.2 (by omega))
    rw [show r.first + (n - r.first) = n by omega, hn, hstep] at hk
    simpa using hk

theorem runs_keepIdentifiers :
    lowerRuns.all CaseRun.keepsIdentifiers = true ∧
      upperRuns.all CaseRun.keepsIdentifiers = true := by
  decide +kernel

def keepIdentifiers (expansions : List (Nat × List Nat)) : Bool :=
  expansions.all fun e => e.2.all fun n => isIdContinue (Char.ofNat n)

theorem expansions_keepIdentifiers :
    keepIdentifiers lowerExpansions = true ∧ keepIdentifiers upperExpansions = true := by
  decide +kernel

/-- What a case image can be: an expansion, what a run leads to, or the code point itself. -/
theorem caseImage_cases (expansions : List (Nat × List Nat)) (runs : List CaseRun) (n : Nat) :
    (∃ ns, (n, ns) ∈ expansions ∧ caseImage expansions runs n = ns) ∨
      (∃ r ∈ runs, ∃ m, r.image? n = some m ∧ caseImage expansions runs n = [m]) ∨
      caseImage expansions runs n = [n] := by
  rw [caseImage]
  cases hl : expansions.lookup n with
  | some ns =>
    obtain ⟨before, after, rfl, -⟩ := List.lookup_eq_some_iff.1 hl
    exact .inl ⟨ns, List.mem_append_right before List.mem_cons_self, rfl⟩
  | none =>
    cases hi : runs.findSome? fun r => r.image? n with
    | none => exact .inr (.inr rfl)
    | some m =>
      obtain ⟨r, hr, hm⟩ := List.exists_of_findSome?_eq_some hi
      exact .inr (.inl ⟨r, hr, m, hm, rfl⟩)

theorem isIdContinue_caseImage {expansions : List (Nat × List Nat)} {runs : List CaseRun}
    (he : keepIdentifiers expansions = true) (hr : runs.all CaseRun.keepsIdentifiers = true)
    {n : Nat} (hn : isIdContinue (Char.ofNat n) = true) :
    ∀ m ∈ caseImage expansions runs n, isIdContinue (Char.ofNat m) = true := by
  intro m hm
  rcases caseImage_cases expansions runs n with ⟨ns, hmem, hi⟩ | ⟨r, hmem, k, hk, hi⟩ | hi
  · rw [hi] at hm
    exact List.all_eq_true.1 (List.all_eq_true.1 he (n, ns) hmem) m hm
  · rw [hi] at hm
    cases List.mem_singleton.1 hm
    exact CaseRun.isIdContinue_image (List.all_eq_true.1 hr r hmem) hk hn
  · rw [hi] at hm
    cases List.mem_singleton.1 hm
    exact hn

/-- What holds of the image of an ASCII character and of the images in the tables holds of all that
a character is mapped to. -/
theorem forall_mem_mapped {q : Char → Prop} {f : Char → Char} {expansions : List (Nat × List Nat)}
    {runs : List CaseRun} {c : Char} (hascii : c.toNat < 128 → q (f c))
    (hbeyond : 128 ≤ c.toNat → ∀ m ∈ caseImage expansions runs c.toNat, q (Char.ofNat m)) :
    ∀ d ∈ if c.toNat < 128 then [f c] else (caseImage expansions runs c.toNat).map Char.ofNat,
      q d := by
  intro d hd
  split at hd
  · next hc =>
    rw [List.mem_singleton.1 hd]
    exact hascii hc
  · next hc =>
    obtain ⟨m, hm, rfl⟩ := List.mem_map.1 hd
    exact hbeyond (Nat.not_lt.1 hc) m hm

theorem isIdContinue_lowerChar {c : Char} (h : isIdContinue c = true) :
    ∀ d ∈ lowerChar c, isIdContinue d = true := by
  refine forall_mem_mapped (fun hc => ?_) fun _ => ?_
  · have ha := of_ascii (q := fun c => !isIdContinue c || isIdContinue c.toLower) (by decide) hc
    rw [h] at ha
    exact ha
  · rw [← Char.ofNat_toNat c] at h
    exact isIdContinue_caseImage expansions_keepIdentifiers.1 runs_keepIdentifiers.1 h

theorem isIdContinue_upperChar {c : Char} (h : isIdContinue c = true) :
    ∀ d ∈ upperChar c, isIdContinue d = true := by
  refine forall_mem_mapped (fun hc => ?_) fun _ => ?_
  · have ha := of_ascii (q := fun c => !isIdContinue c || isIdContinue c.toUpper) (by decide) hc
    rw [h] at ha
    exact ha
  · rw [← Char.ofNat_toNat c] at h
    exact isIdContinue_caseImage expansions_keepIdentifiers.2 runs_keepIdentifiers.2 h

/-- What holds of the lower case of each character, and of the final sigma, holds all along the
lower case of a text. -/
theorem forall_mem_lowerAfter {q : Char → Prop} (hfinal : q 'ς') {cs : List Char}
    (h : ∀ c ∈ cs, ∀ d ∈ lowerChar c, q d) (afterCased : Bool) :
    ∀ d ∈ lowerAfter afterCased cs, q d := by
  induction cs generalizing afterCased with
  | nil => exact fun d hd => nomatch hd
  | cons c cs ih =>
    intro d hd
    rw [lowerAfter] at hd
    rcases List.mem_append.1 hd with hd | hd
    · split at hd
      · cases List.mem_singleton.1 hd
        exact hfinal
      · exact h c List.mem_cons_self d hd
    · exact ih (fun x hx => h x (List.mem_cons_of_mem c hx)) _ d hd

theorem isIdContinue_lower {cs : List Char} (h : ∀ c ∈ cs, isIdContinue c = true) :
    ∀ d ∈ lower cs, isIdContinue d = true := by
  -- the final sigma stands in no table of case mappings
  have hfinal : isIdContinue 'ς' = true := isIdContinue_of_has (n := 'ς'.toNat) (by decide)
  exact forall_mem_lowerAfter hfinal (fun c hc => isIdContinue_lowerChar (h c hc)) false

/-- Whether the ranges hold none of the line breaks beyond ASCII. -/
def Ranges.unbroken (rs : Ranges) : Bool :=
  !rs.has 0x85 && !rs.has 0x2028 && !rs.has 0x2029

theorem Ranges.isLineBreak_of_has {rs : Ranges} (h : rs.unbroken = true) {c : Char}
    (hc : rs.has c.toNat = true) (hn : ¬c.toNat < 128) : isLineBreak c = false := by
  simp only [unbroken, Bool.and_eq_true, Bool.not_eq_true'] at h
  have h₁ : c.toNat ≠ 0x85 := fun he => by rw [he, h.1.1] at hc; cases hc
  have h₂ : c.toNat ≠ 0x2028 := fun he => by rw [he, h.1.2] at hc; cases hc
  have h₃ : c.toNat ≠ 0x2029 := fun he => by rw [he, h.2] at hc; cases hc
  rw [Bool.eq_false_iff]
  simp only [isLineBreak, ne_eq, Bool.or_eq_true, Bool.and_eq_true, Nat.ble_eq, beq_iff_eq]
  omega

theorem tables_unbroken :
    idStartRanges.unbroken = true ∧ idExtendRanges.unbroken = true ∧
      printableRanges.unbroken = true := by
  decide +kernel

theorem isLineBreak_of_isIdContinue {c : Char} (h : isIdContinue c = true) :
    isLineBreak c = false := by
  by_cases hc : c.toNat < 128
  · have ha := of_ascii (q := fun c => !isIdContinue c || !isLineBreak c) (by decide) hc
    rw [h] at ha
    exact Bool.not_eq_true' _ ▸ ha
  · rw [isIdContinue, if_neg hc, Bool.or_eq_true] at h
    rcases h with h | h
    · exact Ranges.isLineBreak_of_has tables_unbroken.1 h hc
    · exact Ranges.isLineBreak_of_has tables_unbroken.2.1 h hc

theorem isLineBreak_of_isPrintable {c : Char} (h : isPrintable c = true) :
    isLineBreak c = false := by
  by_cases hc : c.toNat < 128
  · have ha := of_ascii (q := fun c => !isPrintable c || !isLineBreak c) (by decide) hc
    rw [h] at ha
    exact Bool.not_eq_true' _ ▸ ha
  · rw [isPrintable, if_neg hc] at h
    exact Ranges.isLineBreak_of_has tables_unbroken.2.2 h hc

end ClientGen.Unicode
