import ClientGen.Proofs.Characters

namespace ClientGen.Unicode

/-- Whether a run leads around a code point. -/
def CaseRun.misses (r : CaseRun) (n : Nat) : Bool :=
  Nat.blt n r.target || Nat.blt (r.target + (r.last - r.first)) n

/-- Whether no image of one run lies on another: they are apart, or out of step. -/
def CaseRun.clears (r s : CaseRun) : Bool :=
  Nat.blt (r.target + (r.last - r.first)) s.first || Nat.blt s.last r.target ||
    ((r.step % s.step == 0 || r.first == r.last) && r.target % s.step != s.first % s.step)

theorem CaseRun.ne_of_misses {r : CaseRun} {k : Nat} (h : r.misses k = true) {n m : Nat}
    (hm : r.image? n = some m) : m ≠ k := by
  obtain ⟨hfirst, hlast, -, rfl⟩ := image?_eq_some_iff.1 hm
  simp only [misses, Bool.or_eq_true, Nat.blt_eq] at h
  omega

theorem CaseRun.image?_of_clears {r s : CaseRun} (h : r.clears s = true) {n m : Nat}
    (hm : r.image? n = some m) : s.image? m = none := by
  obtain ⟨hfirst, hlast, hstep, rfl⟩ := image?_eq_some_iff.1 hm
  rw [Option.eq_none_iff_forall_ne_some]
  intro k hk
  obtain ⟨hsfirst, hslast, hsstep, -⟩ := image?_eq_some_iff.1 hk
  simp only [clears, Bool.or_eq_true, Bool.and_eq_true, Nat.blt_eq, beq_iff_eq, bne_iff_ne] at h
  rcases h with (habove | hbelow) | ⟨htogether, hout⟩
  · omega
  · omega
  · -- both distances are whole steps of the second run
    have hwhole : (n - r.first) % s.step = 0 := by
      rcases htogether with hdvd | hsingle
      · exact Nat.mod_eq_zero_of_dvd
          (Nat.dvd_trans (Nat.dvd_of_mod_eq_zero hdvd) (Nat.dvd_of_mod_eq_zero hstep))
      · rw [show n - r.first = 0 by omega, Nat.zero_mod]
    apply hout
    calc r.target % s.step
        = (r.target + (n - r.first)) % s.step := by
          rw [Nat.add_mod, hwhole, Nat.add_zero, Nat.mod_mod]
      _ = (s.first + (r.target + (n - r.first) - s.first)) % s.step := by
          rw [Nat.add_sub_cancel' hsfirst]
      _ = s.first % s.step := by rw [Nat.add_mod, hsstep, Nat.add_zero, Nat.mod_mod]

theorem lowerChar_ascii {c : Char} (h : c.toNat < 128) : lowerChar c = [c.toLower] :=
  if_pos h

theorem upperChar_ascii {c : Char} (h : c.toNat < 128) : upperChar c = [c.toUpper] :=
  if_pos h

def IsSmall (c : Char) : Prop :=
  lowerChar c = [c]

instance (c : Char) : Decidable (IsSmall c) :=
  inferInstanceAs (Decidable (lowerChar c = [c]))

theorem IsSmall.not_isUpper {c : Char} (h : IsSmall c) : c.isUpper = false := by
  by_cases hc : c.toNat < 128
  · have ha := of_ascii (q := fun c => c.toLower != c || !c.isUpper) (by decide) hc
    rw [IsSmall, lowerChar_ascii hc, List.singleton_inj] at h
    simpa [h] using ha
  · rw [Bool.eq_false_iff]
    intro hu
    have hrange : 'A'.val ≤ c.val ∧ c.val ≤ 'Z'.val := of_decide_eq_true hu
    exact hc (Nat.lt_of_le_of_lt hrange.2 (by decide))

theorem isSmall_ofNat {m : Nat} (hge : 128 ≤ m)
    (h : caseImage lowerExpansions lowerRuns m = [m]) : IsSmall (Char.ofNat m) := by
  by_cases hvalid : m.isValidChar
  · have hm : (Char.ofNat m).toNat = m := by
      rw [Char.ofNat, dif_pos hvalid]
      rfl
    rw [IsSmall, lowerChar, hm, if_neg (Nat.not_lt.2 hge), h]
    rfl
  · rw [Char.ofNat, dif_neg hvalid]
    decide

/-- Whether what a run leads to is its own lower case: all of it lies off the tables, or the
characters are tested one by one. -/
def CaseRun.settles (r : CaseRun) : Bool :=
  (Nat.ble 0x80 r.target && lowerExpansions.all (fun e => r.misses e.1) && lowerRuns.all r.clears)
    || (List.range (r.last - r.first + 1)).all fun k =>
      k % r.step != 0 || decide (IsSmall (Char.ofNat (r.target + k)))

theorem CaseRun.isSmall_image {r : CaseRun} (h : r.settles = true) {n m : Nat}
    (hm : r.image? n = some m) : IsSmall (Char.ofNat m) := by
  have himage := image?_eq_some_iff.1 hm
  rw [settles, Bool.or_eq_true] at h
  rcases h with hoff | htested
  · simp only [Bool.and_eq_true, Nat.ble_eq] at hoff
    obtain ⟨⟨hge, hexpansions⟩, hruns⟩ := hoff
    refine isSmall_ofNat (by omega) ?_
    rcases caseImage_cases lowerExpansions lowerRuns m with ⟨ns, hmem, -⟩ | ⟨s, hmem, k, hk, -⟩ | hi
    · exact absurd rfl (ne_of_misses (List.all_eq_true.1 hexpansions (m, ns) hmem) hm)
    · rw [image?_of_clears (List.all_eq_true.1 hruns s hmem) hm] at hk
      cases hk
    · exact hi
  · obtain ⟨hfirst, hlast, hstep, rfl⟩ := himage
    have hk := List.all_eq_true.1 htested (n - r.first) (List.mem_range.2 (by omega))
    rw [hstep] at hk
    exact of_decide_eq_true hk

theorem lowerRuns_settle : lowerRuns.all CaseRun.settles = true := by
  decide +kernel

theorem lowerExpansions_settle :
    ∀ e ∈ lowerExpansions, ∀ m ∈ e.2, IsSmall (Char.ofNat m) := by
  decide

theorem isSmall_lowerChar (c : Char) : ∀ d ∈ lowerChar c, IsSmall d := by
  refine forall_mem_mapped (fun hc => ?_) fun hc m hm => ?_
  · exact of_decide_eq_true (of_ascii (q := fun c => decide (IsSmall c.toLower)) (by decide) hc)
  · rcases caseImage_cases lowerExpansions lowerRuns c.toNat with
      ⟨ns, hmem, hi⟩ | ⟨r, hmem, k, hk, hi⟩ | hi
    · rw [hi] at hm
      exact lowerExpansions_settle (c.toNat, ns) hmem m hm
    · rw [hi] at hm
      cases List.mem_singleton.1 hm
      exact CaseRun.isSmall_image (List.all_eq_true.1 lowerRuns_settle r hmem) hk
    · rw [hi] at hm
      cases List.mem_singleton.1 hm
      exact isSmall_ofNat hc hi

theorem isSmall_lower (cs : List Char) : ∀ d ∈ lower cs, IsSmall d :=
  forall_mem_lowerAfter (by decide) (fun c _ => isSmall_lowerChar c) false

theorem lowerAfter_of_isSmall {cs : List Char} (h : ∀ c ∈ cs, IsSmall c) (afterCased : Bool) :
    lowerAfter afterCased cs = cs := by
  induction cs generalizing afterCased with
  | nil => rfl
  | cons c cs ih =>
    have hc : IsSmall c := h c List.mem_cons_self
    have hsigma : (c == 'Σ') = false := by
      rw [beq_eq_false_iff_ne]
      rintro rfl
      exact absurd hc (by decide)
    rw [lowerAfter, hsigma, Bool.false_and, Bool.false_and, if_neg Bool.false_ne_true, hc,
      ih fun d hd => h d (List.mem_cons_of_mem c hd)]
    rfl

theorem lower_of_isSmall {cs : List Char} (h : ∀ c ∈ cs, IsSmall c) : lower cs = cs :=
  lowerAfter_of_isSmall h false

/-- Lower case stays as it is when it is lowered again. -/
theorem lower_lower (cs : List Char) : lower (lower cs) = lower cs :=
  lower_of_isSmall (isSmall_lower cs)

theorem lowerChar_ne_nil (c : Char) : lowerChar c ≠ [] := by
  have hexpansions : ∀ e ∈ lowerExpansions, e.2 ≠ [] := by decide
  rw [lowerChar]
  split
  · exact List.cons_ne_nil _ _
  · rw [ne_eq, List.map_eq_nil_iff]
    rcases caseImage_cases lowerExpansions lowerRuns c.toNat with
      ⟨ns, hmem, hi⟩ | ⟨r, -, k, -, hi⟩ | hi
    · rw [hi]
      exact hexpansions (c.toNat, ns) hmem
    · rw [hi]
      exact List.cons_ne_nil k []
    · rw [hi]
      exact List.cons_ne_nil _ []

theorem lower_ne_nil {cs : List Char} (h : cs ≠ []) : lower cs ≠ [] := by
  obtain ⟨c, cs, rfl⟩ := List.exists_cons_of_ne_nil h
  rw [lower, lowerAfter]
  apply List.append_ne_nil_of_left_ne_nil
  split
  · exact List.cons_ne_nil _ _
  · exact lowerChar_ne_nil c

/-- Whether case mappings lead around a code point. -/
def avoidsCodePoint (expansions : List (Nat × List Nat)) (runs : List CaseRun) (k : Nat) : Bool :=
  expansions.all (fun e => !e.2.contains k) && runs.all fun r => r.misses k

theorem ne_of_mem_caseImage {expansions : List (Nat × List Nat)} {runs : List CaseRun} {k : Nat}
    (h : avoidsCodePoint expansions runs k = true) {n : Nat} (hn : n ≠ k) :
    ∀ m ∈ caseImage expansions runs n, m ≠ k := by
  rw [avoidsCodePoint, Bool.and_eq_true] at h
  intro m hm
  rcases caseImage_cases expansions runs n with ⟨ns, hmem, hi⟩ | ⟨r, hmem, l, hl, hi⟩ | hi
  · rw [hi] at hm
    have hns := List.all_eq_true.1 h.1 (n, ns) hmem
    rintro rfl
    rw [List.contains_iff_mem.2 hm] at hns
    cases hns
  · rw [hi] at hm
    cases List.mem_singleton.1 hm
    exact CaseRun.ne_of_misses (List.all_eq_true.1 h.2 r hmem) hl
  · rw [hi] at hm
    cases List.mem_singleton.1 hm
    exact hn

theorem ofNat_ne_underscore {m : Nat} (h : m ≠ '_'.toNat) : Char.ofNat m ≠ '_' := by
  intro he
  by_cases hvalid : m.isValidChar
  · have hm : (Char.ofNat m).toNat = m := by
      rw [Char.ofNat, dif_pos hvalid]
      rfl
    exact h (hm.symm.trans (congrArg Char.toNat he))
  · rw [Char.ofNat, dif_neg hvalid] at he
    exact absurd he (by decide)

theorem lower_avoids_underscore : avoidsCodePoint lowerExpansions lowerRuns '_'.toNat = true := by
  decide

theorem upper_avoids_underscore : avoidsCodePoint upperExpansions upperRuns '_'.toNat = true := by
  decide

/-- A mapping that keeps other ASCII characters from the underscore, and leads around it beyond. -/
theorem ne_underscore_mapped {f : Char → Char} {expansions : List (Nat × List Nat)}
    {runs : List CaseRun}
    (hascii : ((List.range 128).all fun n => Char.ofNat n == '_' || f (Char.ofNat n) != '_') = true)
    (hbeyond : avoidsCodePoint expansions runs '_'.toNat = true) {c : Char} (h : c ≠ '_') :
    ∀ d ∈ if c.toNat < 128 then [f c] else (caseImage expansions runs c.toNat).map Char.ofNat,
      d ≠ '_' := by
  refine forall_mem_mapped (fun hc => ?_) fun _ m hm => ?_
  · have ha := of_ascii (q := fun c => c == '_' || f c != '_') hascii hc
    rw [beq_false_of_ne h, Bool.false_or, bne_iff_ne] at ha
    exact ha
  · have hn : c.toNat ≠ '_'.toNat := fun he => h (Char.toNat_inj.1 he)
    exact ofNat_ne_underscore (ne_of_mem_caseImage hbeyond hn m hm)

theorem ne_underscore_lowerChar {c : Char} (h : c ≠ '_') : ∀ d ∈ lowerChar c, d ≠ '_' :=
  ne_underscore_mapped (by decide) lower_avoids_underscore h

theorem ne_underscore_upperChar {c : Char} (h : c ≠ '_') : ∀ d ∈ upperChar c, d ≠ '_' :=
  ne_underscore_mapped (by decide) upper_avoids_underscore h

theorem ne_underscore_lower {cs : List Char} (h : ∀ c ∈ cs, c ≠ '_') : ∀ d ∈ lower cs, d ≠ '_' :=
  forall_mem_lowerAfter (by decide) (fun c hc => ne_underscore_lowerChar (h c hc)) false

end ClientGen.Unicode
