import JavaSource.Log.Filter
import JavaSource.Proofs.Words

/-!
# The Choice of a Filter

A filter is spelled twice, in the settings and in the environment, and either spelling
may be nonsense. This module says which filter comes out of the four cases: the two
spellings joined if both can be read, the one of the environment if only that can, the
one of the settings if only that can, and the plain filter if neither can.

The choice tries the joined spellings first and learns no more from a failure than that
there was one. What it goes on with depends on which of the two was to blame, so the
argument needs one thing of the reading of spellings: a join can be read exactly if both
of its parts can (`ReadsJoins`). Nothing else is asked, and the results hold for whatever
reads spellings so. Filters do, since a join has the pieces of both parts
(`readsJoins_parse?`).

Before it is read, the level of the settings is brought into a normal form. Blanks around
it make no difference to that, and neither does the case of a level that is given by its
name.

## Main definitions

* `Filter.ReadsJoins`: A join is read if its parts are.
* `Filter.levelNames`: The names of levels in settings.
* `Filter.Padded`: A text has blanks around another.

## Theorems

* `Filter.readsJoins_parse?`: Spellings of filters are read so.
* `Filter.chooseBy_of_bad_join`: Who decides if a join cannot be read.
* `Filter.chooseBy_of_both`, `Filter.chooseBy_of_environment`,
  `Filter.chooseBy_of_bad_environment`: The filter that is chosen, by case.
* `Filter.normalise_eq`: The normal form of a level.
* `Filter.normalise_congr`: Which levels are the same.
* `Filter.choice_never_spoiled`: A bad spelling never spoils a good one.
-/

namespace JavaSource

namespace Log

namespace Filter

open Text (isBlank trim trimmed)

/-! ### Joined spellings -/

/-- Two spellings with a comma between them can be read exactly if both can. -/
def ReadsJoins {φ : Type} (read? : String → Option φ) : Prop :=
  ∀ s t, (read? (s ++ "," ++ t)).isSome = true ↔ (read? s).isSome = true ∧ (read? t).isSome = true

theorem isSome_parse? (s : String) : (parse? s).isSome = (directives? s).isSome := by
  rw [parse?, Option.isSome_map]

theorem readsJoins_parse? : ReadsJoins parse? := by
  intro s t
  rw [isSome_parse?, isSome_parse?, isSome_parse?, directives?, directives?, directives?,
    pieces_append, List.mapM_append]
  -- The directives of the join are there if those of both parts are.
  cases (pieces s).mapM Directive.parse? with
  | none => simp
  | some ds =>
      cases (pieces t).mapM Directive.parse? with
      | none => simp
      | some ds' => simp

section Choice

variable {φ : Type} {read? : String → Option φ} (plain : φ) (level : String) {e : String}
  {environment : Option String}

theorem chooseBy_of_unset (henv : environment? environment = none) :
    chooseBy read? plain level environment = (read? (normalise level)).getD plain := by
  rw [chooseBy, henv]
  rfl

theorem chooseBy_of_both (hread : ReadsJoins read?) (henv : environment? environment = some e)
    (hlevel : (read? (normalise level)).isSome = true) (he : (read? e).isSome = true) :
    read? (normalise level ++ "," ++ e) = some (chooseBy read? plain level environment) := by
  have hjoin := (hread (normalise level) e).mpr ⟨hlevel, he⟩
  rcases Option.isSome_iff_exists.mp hjoin with ⟨f, hf⟩
  rw [chooseBy, henv]
  simp only [hf]

/-- A join that cannot be read leaves the choice to the environment, and then to the
    settings. -/
theorem chooseBy_of_bad_join (hread : ReadsJoins read?) (henv : environment? environment = some e)
    (hbad : ¬ ((read? (normalise level)).isSome = true ∧ (read? e).isSome = true)) :
    chooseBy read? plain level environment = (read? e).getD (chooseBy read? plain level none) := by
  have hjoin : read? (normalise level ++ "," ++ e) = none := by
    rw [← Option.not_isSome_iff_eq_none, hread]
    exact hbad
  have hunset : chooseBy read? plain level none = ofLevelBy read? plain level := rfl
  rw [hunset, chooseBy, henv]
  simp only [hjoin]
  cases read? e with
  | none => rfl
  | some f => rfl

theorem chooseBy_of_environment (hread : ReadsJoins read?)
    (henv : environment? environment = some e) (hlevel : read? (normalise level) = none)
    (he : (read? e).isSome = true) :
    read? e = some (chooseBy read? plain level environment) := by
  have hchoose := chooseBy_of_bad_join plain level hread henv (by simp [hlevel])
  rcases Option.isSome_iff_exists.mp he with ⟨f, hf⟩
  rw [hchoose, hf, Option.getD_some]

theorem chooseBy_of_bad_environment (hread : ReadsJoins read?)
    (henv : environment? environment = some e) (he : read? e = none) :
    chooseBy read? plain level environment = chooseBy read? plain level none := by
  have hchoose := chooseBy_of_bad_join plain level hread henv (by simp [he])
  rw [hchoose, he, Option.getD_none]

end Choice

/-! ### The environment -/

theorem trimmed_eq_empty_iff {text : String} :
    trimmed text = "" ↔ ∀ c ∈ text.toList, isBlank c = true := by
  rw [← String.toList_eq_nil_iff, trimmed, String.toList_ofList, Text.trim_eq_nil_iff]

/-- A blank text in the environment is as good as none. -/
theorem environment?_of_blank {text : String} (h : ∀ c ∈ text.toList, isBlank c = true) :
    environment? (some text) = none := by
  simp [environment?, trimmed_eq_empty_iff.mpr h]

theorem environment?_of_not_blank {text : String} (h : ∃ c ∈ text.toList, isBlank c = false) :
    environment? (some text) = some (trimmed text) := by
  have hne : trimmed text ≠ "" := by
    rw [Ne, trimmed_eq_empty_iff]
    intro hblank
    rcases h with ⟨c, hc, hnot⟩
    rw [hblank c hc] at hnot
    cases hnot
  simp [environment?, hne]

/-! ### Levels -/

/-- The names of levels in settings. -/
def levelNames : List String :=
  ["trace", "debug", "info", "warn", "warning", "error"]

/-- The text has blanks around another, if anything. -/
def Padded (core text : String) : Prop :=
  ∃ front back, text.toList = front ++ core.toList ++ back ∧
    (∀ c ∈ front, isBlank c = true) ∧ ∀ c ∈ back, isBlank c = true

theorem Padded.trimmed_eq {core text : String} (h : Padded core text) :
    trimmed text = trimmed core := by
  rcases h with ⟨front, back, htext, hfront, hback⟩
  rw [trimmed, trimmed, htext, Text.trim_between hfront hback]

theorem toNat_of_isUpper {c : Char} (h : c.val ≥ 'A'.val ∧ c.val ≤ 'Z'.val) :
    65 ≤ c.toNat ∧ c.toNat ≤ 90 := by
  simpa [UInt32.le_iff_toNat_le] using h

theorem lowerChar_eq (c : Char) : Threshold.lowerChar c = c.toLower := by
  unfold Threshold.lowerChar Char.toLower
  by_cases hupper : 'A' ≤ c ∧ c ≤ 'Z'
  · have hval : c.val ≥ 'A'.val ∧ c.val ≤ 'Z'.val := hupper
    have hnat := toNat_of_isUpper hval
    have hvalid : c.toNat + 32 < 0xd800 := by omega
    rw [if_pos hupper, dif_pos hval]
    -- The sum neither overflows nor gets near the surrogates.
    refine Char.ext (UInt32.toNat_inj.mp ?_)
    rw [Char.ofNat, dif_pos (Or.inl hvalid), UInt32.toNat_add]
    show c.toNat + 32 = (c.toNat + 32) % 2 ^ 32
    omega
  · have hval : ¬ (c.val ≥ 'A'.val ∧ c.val ≤ 'Z'.val) := hupper
    rw [if_neg hupper, dif_neg hval]

theorem toList_toLower (s : String) : s.toLower.toList = s.toList.map Char.toLower :=
  String.toList_map

theorem lower_eq (s : String) : Threshold.lower s = s.toLower := by
  rw [← String.toList_inj, Threshold.lower, toList_toLower, String.toList_ofList]
  exact List.map_congr_left (fun c _ => lowerChar_eq c)

theorem toLower_of_isBlank {c : Char} (h : isBlank c = true) : c.toLower = c := by
  rw [← lowerChar_eq, Threshold.lowerChar, if_neg]
  intro hupper
  have hnat := toNat_of_isUpper hupper
  simp [isBlank] at h
  omega

/-- A text that is the name of a level in some case has no blanks. -/
theorem trimmed_of_name {s : String} (h : s.toLower ∈ levelNames) : trimmed s = s := by
  have hnames : ∀ name ∈ levelNames, (name.toList.all fun c => !isBlank c) = true := by
    decide
  have hword : ∀ c ∈ s.toLower.toList, isBlank c = false := by
    simpa using hnames _ h
  have hblank : ∀ c ∈ s.toList, isBlank c = false := by
    intro c hc
    by_contra hnot
    have hbl : isBlank c = true := by simpa using hnot
    have hmem : c ∈ s.toLower.toList := by
      rw [toList_toLower]
      exact List.mem_map.mpr ⟨c, hc, toLower_of_isBlank hbl⟩
    exact hnot (hword c hmem)
  have htight : Text.Tight s.toList :=
    ⟨fun c hc => hblank c (List.mem_of_mem_head? hc),
      fun c hc => hblank c (List.mem_of_mem_getLast? hc)⟩
  rw [trimmed, htight.trim_eq, String.ofList_toList]

/-- The normal form of a level: a blank one is the usual one, a name is known in any case,
    and anything else stands for itself. -/
theorem normalise_eq (level : String) :
    normalise level =
      if trimmed level = "" then "info"
      else if (trimmed level).toLower ∈ levelNames then
        if (trimmed level).toLower = "warning" then "warn" else (trimmed level).toLower
      else trimmed level := by
  unfold normalise
  simp only [lower_eq]
  by_cases hempty : trimmed level = ""
  · simp [hempty]
  · rw [if_neg (by simpa using hempty), if_neg hempty]
    generalize (trimmed level).toLower = name
    split <;> simp_all [levelNames]

/-- Levels have the same normal form if they differ in the blanks around them, or in the
    case of a name. -/
theorem normalise_congr {core core' level level' : String} (h : Padded core level)
    (h' : Padded core' level')
    (hcore : core = core' ∨ core.toLower = core'.toLower ∧ core.toLower ∈ levelNames) :
    normalise level = normalise level' := by
  rw [normalise_eq, normalise_eq, h.trimmed_eq, h'.trimmed_eq]
  rcases hcore with rfl | ⟨hcase, hname⟩
  · rfl
  · have hname' : core'.toLower ∈ levelNames := hcase ▸ hname
    have hne : ∀ s : String, s.toLower ∈ levelNames → s ≠ "" := by
      rintro s hs rfl
      rw [← lower_eq] at hs
      exact absurd hs (by decide)
    rw [trimmed_of_name hname, trimmed_of_name hname', if_neg (hne _ hname),
      if_neg (hne _ hname'), if_pos hname, if_pos hname', hcase]

theorem chooseBy_congr {φ : Type} {read? : String → Option φ} {plain : φ} {level level' : String}
    (h : normalise level = normalise level') (environment : Option String) :
    chooseBy read? plain level environment = chooseBy read? plain level' environment := by
  simp only [chooseBy, ofLevelBy, h]

/-- Let spellings be read in any way that reads a join exactly if it reads both parts. Then
    a filter is chosen for every level of the settings and every text in the environment.

    Without such a text, or with a blank one, it is that of the level, and the plain one if
    the level cannot be read. With a text that is not blank it is that of the level and the
    text joined if both can be read, that of the text if only the text can, the same as
    without the text if the text cannot be read, and the plain one if neither can. Levels
    that differ only in the blanks around them, or only in the case of a name, make no
    difference, whatever is in the environment. -/
theorem choice_never_spoiled {φ : Type} {read? : String → Option φ} (hread : ReadsJoins read?)
    (plain : φ) (level : String) :
    (∀ f, read? (normalise level) = some f → chooseBy read? plain level none = f) ∧
    (read? (normalise level) = none → chooseBy read? plain level none = plain) ∧
    (∀ text : String, (∀ c ∈ text.toList, isBlank c = true) →
      chooseBy read? plain level (some text) = chooseBy read? plain level none) ∧
    (∀ text : String, (∃ c ∈ text.toList, isBlank c = false) →
      ((read? (normalise level)).isSome = true → (read? (trimmed text)).isSome = true →
        read? (normalise level ++ "," ++ trimmed text) =
          some (chooseBy read? plain level (some text))) ∧
      (read? (normalise level) = none → (read? (trimmed text)).isSome = true →
        read? (trimmed text) = some (chooseBy read? plain level (some text))) ∧
      (read? (trimmed text) = none →
        chooseBy read? plain level (some text) = chooseBy read? plain level none) ∧
      (read? (normalise level) = none → read? (trimmed text) = none →
        chooseBy read? plain level (some text) = plain)) ∧
    ∀ core core' level' : String, Padded core level → Padded core' level' →
      (core = core' ∨ core.toLower = core'.toLower ∧ core.toLower ∈ levelNames) →
      ∀ environment, chooseBy read? plain level environment =
        chooseBy read? plain level' environment := by
  have hunset : chooseBy read? plain level none = (read? (normalise level)).getD plain :=
    chooseBy_of_unset plain level rfl
  refine ⟨fun f hf => ?_, fun hlevel => ?_, fun text hblank => ?_, fun text htext => ?_, ?_⟩
  · rw [hunset, hf, Option.getD_some]
  · rw [hunset, hlevel, Option.getD_none]
  · rw [hunset, chooseBy_of_unset plain level (environment?_of_blank hblank)]
  · have henv := environment?_of_not_blank htext
    refine ⟨chooseBy_of_both plain level hread henv,
      chooseBy_of_environment plain level hread henv,
      chooseBy_of_bad_environment plain level hread henv, fun hlevel hbad => ?_⟩
    rw [chooseBy_of_bad_environment plain level hread henv hbad, hunset, hlevel, Option.getD_none]
  · intro core core' level' h h' hcore environment
    exact chooseBy_congr (normalise_congr h h' hcore) environment

/-- With filters as they are spelled: a level that cannot be read leaves a text in the
    environment as it is, a text that cannot be read leaves a level as it is, and both
    together leave the plain filter; where both can be read, the level comes first. The
    level of warnings is the same in another case and between blanks. -/
theorem choice_never_spoiled_by_noise :
    ReadsJoins parse? ∧
      parse? "jgen.ast=debug" = some (choose "jgen.writer=loud" (some " jgen.ast=debug\n")) ∧
      choose " Warning" (some "=debug") = choose " Warning" none ∧
      choose "jgen.writer=loud" (some "=debug") = info ∧
      parse? "warn,jgen.ast=debug" = some (choose " Warning" (some "jgen.ast=debug")) ∧
      choose " Warning" (some "jgen.ast=debug") = choose "WARNING\t" (some "jgen.ast=debug") := by
  have hgood : (parse? "jgen.ast=debug").isSome = true := by decide +kernel
  have hwarn : (parse? (normalise " Warning")).isSome = true := by decide +kernel
  have hloud : parse? (normalise "jgen.writer=loud") = none := by decide +kernel
  have hbad : parse? (trimmed "=debug") = none := by decide +kernel
  have hpadded : Padded "Warning" " Warning" :=
    ⟨[' '], [], rfl, List.forall_mem_singleton.mpr rfl, List.forall_mem_nil _⟩
  have hpadded' : Padded "WARNING" "WARNING\t" :=
    ⟨[], ['\t'], rfl, List.forall_mem_nil _, List.forall_mem_singleton.mpr rfl⟩
  have hcase : "Warning".toLower = "WARNING".toLower ∧ "Warning".toLower ∈ levelNames := by
    rw [← lower_eq, ← lower_eq]
    decide +kernel
  rcases choice_never_spoiled readsJoins_parse? info " Warning" with ⟨_, _, _, htexts, hlevels⟩
  rcases choice_never_spoiled readsJoins_parse? info "jgen.writer=loud" with
    ⟨_, _, _, hloudTexts, _⟩
  refine ⟨readsJoins_parse?, ?_, ?_, ?_, ?_, ?_⟩
  · exact (hloudTexts " jgen.ast=debug\n" ⟨'j', by decide, rfl⟩).2.1 hloud hgood
  · exact (htexts "=debug" ⟨'=', by decide, rfl⟩).2.2.1 hbad
  · exact (hloudTexts "=debug" ⟨'=', by decide, rfl⟩).2.2.2 hloud hbad
  · exact (htexts "jgen.ast=debug" ⟨'j', by decide, rfl⟩).1 hwarn hgood
  · exact hlevels "Warning" "WARNING" "WARNING\t" hpadded hpadded' (Or.inr hcase) _

end Filter

end Log

end JavaSource
