import CodeAtlas.CommandLine.Run
import CodeAtlas.Proofs.Logging.Words

/-! Logging after any history of configurations. A configuration fails with a word that is refused, and with nothing else.
    Every other one leaves the root with one outlet and each source with the level asked for, whatever there was before. -/

namespace CodeAtlas

namespace Logging

/-- The word for the level of the root: the last among the overrides that name the root, or else the first word of all. -/
def rootWord (word : String) (overrides : List (String × String)) : String :=
  ((overrides.filter fun o => isRoot o.1).map Prod.snd).getLastD word

/-- What is asked of a configuration. The overrides name each source once. -/
structure Call where
  word : String
  overrides : List (String × String) := []
  nodup : (overrides.map Prod.fst).Nodup := by decide

/-- None of the words of a call is refused. -/
def Call.IsTaken (c : Call) : Prop := Logging.IsTaken c.word ∧ ∀ o ∈ c.overrides, Logging.IsTaken o.2

instance (c : Call) : Decidable c.IsTaken := inferInstanceAs (Decidable (_ ∧ _))

namespace Setup

/-- What a configuration leaves. Overrides come last, also for the root; and what it does not speak of is as before. -/
structure Configured (before : Setup) (word : String) (overrides : List (String × String)) (after : Setup) : Prop where
  outlets : after.outlets = 1
  root : AsksFor (rootWord word overrides) after.root
  overridden : ∀ o ∈ overrides, isRoot o.1 = false → AsksFor o.2 (after.ownLevel o.1)
  noisy : ∀ source ∈ noisySources, source ∉ overrides.map Prod.fst → after.ownLevel source = Level.warning.rank
  others : ∀ source, isRoot source = false → source ∉ noisySources → source ∉ overrides.map Prod.fst →
    after.ownLevel source = before.ownLevel source

/-- What a call comes to: it is done, it is refused at once, or it stops at an override. -/
inductive ComesTo (before : Setup) (c : Call) : Except Failure Unit → Setup → Prop
  | done {after : Setup} : c.IsTaken → Configured before c.word c.overrides after → ComesTo before c (.ok ()) after
  | refused {f : Failure} : IsRefused c.word f → ComesTo before c (.error f) before
  | stopped {front back : List (String × String)} {source word : String} {f : Failure} {after : Setup} :
      IsTaken c.word → (∀ o ∈ front, IsTaken o.2) → c.overrides = front ++ (source, word) :: back → IsRefused word f →
      Configured before c.word front after → ComesTo before c (.error f) after

/-- The setup after calls, one after the other, whether they fail or not. -/
def afterAll (s : Setup) (calls : List Call) : Setup := calls.foldl (fun s c => (s.configure c.word c.overrides).2) s

variable {s before after : Setup} {c : Call} {source other word : String} {sources : List String} {rank : Nat} {f : Failure}
  {overrides front back : List (String × String)} {outcome : Except Failure Unit}

/-! ### One level -/

theorem outlets_setLevel (s : Setup) (source : String) (rank : Nat) : (s.setLevel source rank).outlets = s.outlets := by
  rw [setLevel]
  split <;> rfl

theorem root_setLevel (s : Setup) (source : String) (rank : Nat) :
    (s.setLevel source rank).root = if isRoot source then rank else s.root := by
  rw [setLevel]
  split <;> rfl

theorem ownLevel_setLevel_self (hroot : isRoot source = false) : (s.setLevel source rank).ownLevel source = rank := by
  simp [setLevel, ownLevel, hroot]

theorem ownLevel_setLevel_of_ne (hroot : isRoot other = false) (hne : source ≠ other) :
    (s.setLevel source rank).ownLevel other = s.ownLevel other := by
  rw [setLevel]
  split
  · simp [ownLevel, hroot]
  · have hkept : (s.own.filter fun o => o.1 != source).find? (fun o => o.1 == other) =
        s.own.find? fun o => o.1 == other := by
      rw [List.find?_filter]
      refine congrArg (fun p => s.own.find? p) (funext fun o => ?_)
      by_cases ho : o.1 = other
      · simp [ho, hne.symm]
      · simp [ho]
    simp only [ownLevel, hroot, List.find?_cons, beq_false_of_ne hne, hkept]

/-! ### One level for several sources -/

theorem outlets_foldl_setLevel (s : Setup) (sources : List String) (rank : Nat) :
    (sources.foldl (fun s source => s.setLevel source rank) s).outlets = s.outlets := by
  induction sources generalizing s with
  | nil => rfl
  | cons source sources ih => rw [List.foldl_cons, ih, outlets_setLevel]

theorem root_foldl_setLevel (h : ∀ source ∈ sources, isRoot source = false) :
    (sources.foldl (fun s source => s.setLevel source rank) s).root = s.root := by
  induction sources generalizing s with
  | nil => rfl
  | cons source sources ih =>
    obtain ⟨hsource, hrest⟩ := List.forall_mem_cons.mp h
    rw [List.foldl_cons, ih hrest, root_setLevel, hsource]
    rfl

theorem ownLevel_foldl_setLevel (hroot : isRoot other = false) :
    (sources.foldl (fun s source => s.setLevel source rank) s).ownLevel other =
      if other ∈ sources then rank else s.ownLevel other := by
  induction sources generalizing s with
  | nil => rfl
  | cons source sources ih =>
    rw [List.foldl_cons, ih]
    by_cases heq : source = other
    · rw [heq, ownLevel_setLevel_self hroot, ite_self, if_pos List.mem_cons_self]
    · rw [ownLevel_setLevel_of_ne hroot heq]
      simp [Ne.symm heq]

/-! ### Overrides -/

theorem setLevels_cons_of_ok (h : levelOf word = .ok rank) :
    s.setLevels ((source, word) :: back) = (s.setLevel source rank).setLevels back := by
  rw [setLevels, h]

theorem setLevels_append (h : ∀ o ∈ front, IsTaken o.2) :
    s.setLevels (front ++ back) = (s.setLevels front).2.setLevels back := by
  induction front generalizing s with
  | nil => rfl
  | cons o front ih =>
    obtain ⟨source, word⟩ := o
    obtain ⟨hword, hfront⟩ := List.forall_mem_cons.mp h
    obtain ⟨rank, hrank, -⟩ := hword.exists_level
    rw [List.cons_append, setLevels_cons_of_ok hrank, setLevels_cons_of_ok hrank, ih hfront]

theorem setLevels_of_isTaken (h : ∀ o ∈ overrides, IsTaken o.2) : (s.setLevels overrides).1 = .ok () := by
  rw [← List.append_nil overrides, setLevels_append h]
  rfl

theorem setLevels_of_isRefused (h : ∀ o ∈ front, IsTaken o.2) (hrefused : IsRefused word f) :
    s.setLevels (front ++ (source, word) :: back) = (.error f, (s.setLevels front).2) := by
  rw [setLevels_append h, setLevels, levelOf_of_isRefused hrefused]

theorem outlets_setLevels (s : Setup) (overrides : List (String × String)) :
    (s.setLevels overrides).2.outlets = s.outlets := by
  induction overrides generalizing s with
  | nil => rfl
  | cons o overrides ih =>
    obtain ⟨source, word⟩ := o
    rw [setLevels]
    split
    · rfl
    · rw [ih, outlets_setLevel]

theorem ownLevel_setLevels_of_not_mem (hroot : isRoot source = false) (h : source ∉ overrides.map Prod.fst) :
    (s.setLevels overrides).2.ownLevel source = s.ownLevel source := by
  induction overrides generalizing s with
  | nil => rfl
  | cons o overrides ih =>
    obtain ⟨other, word⟩ := o
    rw [List.map_cons, List.mem_cons, not_or] at h
    rw [setLevels]
    split
    · rfl
    · rw [ih h.2, ownLevel_setLevel_of_ne hroot (Ne.symm h.1)]

theorem ownLevel_setLevels_of_mem (hroot : isRoot source = false) (htaken : ∀ o ∈ overrides, IsTaken o.2)
    (hnodup : (overrides.map Prod.fst).Nodup) (hmem : (source, word) ∈ overrides) :
    AsksFor word ((s.setLevels overrides).2.ownLevel source) := by
  obtain ⟨front, back, rfl⟩ := List.append_of_mem hmem
  -- what comes after it names other sources, as a source is named once
  have hback : source ∉ back.map Prod.fst := by
    rw [List.map_append, List.map_cons, List.nodup_append] at hnodup
    exact (List.nodup_cons.mp hnodup.2.1).1
  obtain ⟨rank, hrank, hasks⟩ := (htaken _ hmem).exists_level
  rw [setLevels_append fun o ho => htaken o (List.mem_append_left _ ho), setLevels_cons_of_ok hrank,
    ownLevel_setLevels_of_not_mem hroot hback, ownLevel_setLevel_self hroot]
  exact hasks

/-- The root may be named twice, by either of its names. So the word for it is followed from one override to the next. -/
theorem root_setLevels (htaken : ∀ o ∈ overrides, IsTaken o.2) (h : AsksFor word s.root) :
    AsksFor (rootWord word overrides) (s.setLevels overrides).2.root := by
  induction overrides generalizing s word with
  | nil => exact h
  | cons o overrides ih =>
    obtain ⟨source, given⟩ := o
    obtain ⟨hgiven, hrest⟩ := List.forall_mem_cons.mp htaken
    obtain ⟨rank, hrank, hasks⟩ := IsTaken.exists_level hgiven
    have hword : rootWord word ((source, given) :: overrides) =
        rootWord (if isRoot source then given else word) overrides := by
      rw [rootWord, rootWord, List.filter_cons]
      split
      · rw [List.map_cons, List.getLastD_cons]
      · rfl
    rw [setLevels_cons_of_ok hrank, hword]
    refine ih hrest ?_
    rw [root_setLevel]
    split
    · exact hasks
    · exact h

/-- Words are all taken, or there is a first one that is not. -/
theorem taken_or_refused (overrides : List (String × String)) : (∀ o ∈ overrides, IsTaken o.2) ∨
    ∃ front source word back f, overrides = front ++ (source, word) :: back ∧ (∀ o ∈ front, IsTaken o.2) ∧
      IsRefused word f := by
  cases hfind : overrides.find? fun o => ¬IsTaken o.2 with
  | none => exact .inl fun o ho => by simpa using List.find?_eq_none.mp hfind o ho
  | some o =>
    obtain ⟨hnot, front, back, hsplit, hfront⟩ := List.find?_eq_some_iff_append.mp hfind
    have hword : ¬IsTaken o.2 := by simpa using hnot
    obtain ⟨f, hrefused⟩ := not_forall_not.mp hword
    exact .inr ⟨front, o.1, o.2, back, f, hsplit, fun a ha => by simpa using hfront a ha, hrefused⟩

/-! ### One configuration -/

/-- The setup after the level of the root is set, before overrides are looked at. -/
def quieted (s : Setup) (rank : Nat) : Setup :=
  noisySources.foldl (fun s source => s.setLevel source Level.warning.rank) { s with root := rank, outlets := 1 }

theorem isRoot_of_noisy : ∀ source ∈ noisySources, isRoot source = false := by decide

theorem configure_of_ok (h : levelOf word = .ok rank) :
    s.configure word overrides = (s.quieted rank).setLevels overrides := by
  rw [configure, h]
  rfl

theorem configure_of_isRefused (h : IsRefused word f) : s.configure word overrides = (.error f, s) := by
  rw [configure, levelOf_of_isRefused h]

theorem configured_setLevels (hword : AsksFor word rank) (htaken : ∀ o ∈ overrides, IsTaken o.2)
    (hnodup : (overrides.map Prod.fst).Nodup) :
    Configured before word overrides ((before.quieted rank).setLevels overrides).2 where
  outlets := by rw [outlets_setLevels, quieted, outlets_foldl_setLevel]
  root := by
    refine root_setLevels htaken ?_
    rwa [quieted, root_foldl_setLevel isRoot_of_noisy]
  overridden := fun o ho hroot => ownLevel_setLevels_of_mem hroot htaken hnodup ho
  noisy := fun source hsource hnot => by
    have hroot := isRoot_of_noisy source hsource
    rw [ownLevel_setLevels_of_not_mem hroot hnot, quieted, ownLevel_foldl_setLevel hroot, if_pos hsource]
  others := fun source hroot hquiet hnot => by
    rw [ownLevel_setLevels_of_not_mem hroot hnot, quieted, ownLevel_foldl_setLevel hroot, if_neg hquiet]
    simp [ownLevel, hroot]

theorem comesTo_configure (s : Setup) (c : Call) :
    ComesTo s c (s.configure c.word c.overrides).1 (s.configure c.word c.overrides).2 := by
  by_cases hword : IsTaken c.word
  · obtain ⟨rank, hrank, hasks⟩ := hword.exists_level
    rw [configure_of_ok hrank]
    rcases taken_or_refused c.overrides with hall | ⟨front, source, word, back, f, hsplit, hfront, hrefused⟩
    · rw [setLevels_of_isTaken hall]
      exact .done ⟨hword, hall⟩ (configured_setLevels hasks hall c.nodup)
    · have hnodup := c.nodup
      rw [hsplit, List.map_append, List.nodup_append] at hnodup
      rw [hsplit, setLevels_of_isRefused hfront hrefused]
      exact .stopped hword hfront hsplit hrefused (configured_setLevels hasks hfront hnodup.1)
  · obtain ⟨f, hrefused⟩ := not_forall_not.mp hword
    rw [configure_of_isRefused hrefused]
    exact .refused hrefused

theorem ComesTo.ok_iff (h : ComesTo before c outcome after) : outcome = .ok () ↔ c.IsTaken := by
  cases h with
  | done htaken => exact ⟨fun _ => htaken, fun _ => rfl⟩
  | refused hrefused => exact ⟨fun heq => (nomatch heq), fun htaken => absurd hrefused (htaken.1 _)⟩
  | stopped _ _ hsplit hrefused =>
    refine ⟨fun heq => (nomatch heq), fun htaken => ?_⟩
    have hwords := htaken.2
    rw [hsplit, List.forall_mem_append, List.forall_mem_cons] at hwords
    exact absurd hrefused (hwords.2.1 _)

theorem ComesTo.outlets_eq (h : ComesTo before c outcome after) :
    after.outlets = if IsTaken c.word then 1 else before.outlets := by
  cases h with
  | done htaken hafter => rw [if_pos htaken.1, hafter.outlets]
  | refused hrefused => rw [if_neg fun htaken => htaken _ hrefused]
  | stopped hword _ _ _ hafter => rw [if_pos hword, hafter.outlets]

/-! ### Any number of them -/

theorem outlets_afterAll (s : Setup) (calls : List Call) :
    (s.afterAll calls).outlets = if ∃ c ∈ calls, IsTaken c.word then 1 else s.outlets := by
  induction calls generalizing s with
  | nil => simp [afterAll]
  | cons c calls ih =>
    rw [afterAll, List.foldl_cons, ← afterAll, ih, (comesTo_configure s c).outlets_eq]
    by_cases hrest : ∃ d ∈ calls, IsTaken d.word
    · obtain ⟨d, hd, htaken⟩ := hrest
      rw [if_pos ⟨d, hd, htaken⟩, if_pos ⟨d, List.mem_cons_of_mem c hd, htaken⟩]
    · rw [if_neg hrest]
      by_cases hword : IsTaken c.word
      · rw [if_pos hword, if_pos ⟨c, List.mem_cons_self, hword⟩]
      · rw [if_neg hword, if_neg]
        rintro ⟨d, hd, htaken⟩
        rcases List.mem_cons.mp hd with rfl | hlater
        · exact hword htaken
        · exact hrest ⟨d, hlater, htaken⟩

/-- After any calls, failed ones included, the next one fails only with a word that is refused. If it does not fail, the
    root has one outlet and each source the level asked for; and even where calls fail, the root has just one outlet from
    the first call on whose word for the root is taken. What a word asks for and whether it is refused is told by the word
    in capitals, however the characters are put in capitals that have no plain ones. -/
theorem levels_after_configurations (s : Setup) (earlier : List Call) (c : Call) :
    let before := s.afterAll earlier
    let done := before.configure c.word c.overrides
    ComesTo before c done.1 done.2 ∧ (done.1 = .ok () ↔ c.IsTaken) ∧
      (done.2.outlets = if ∃ d ∈ earlier ++ [c], IsTaken d.word then 1 else s.outlets) ∧
      ∀ upper, Text.IsUpperCase upper → ∀ word : String,
        let name := String.ofList (word.toList.flatMap upper)
        (∀ rank, AsksFor word rank ↔
          StandardLevel name rank ∨ (∀ other, ¬StandardLevel name other) ∧ rank = Level.info.rank) ∧
        ∀ f, IsRefused word f ↔ NoLevel name f := by
  intro before done
  have hcomes : ComesTo before c done.1 done.2 := comesTo_configure before c
  refine ⟨hcomes, hcomes.ok_iff, ?_, fun upper hupper => levels_of_upperCase hupper⟩
  have hafter : done.2 = s.afterAll (earlier ++ [c]) := by
    rw [afterAll, List.foldl_append]
    rfl
  rw [hafter, outlets_afterAll]

/-- A call that is refused and one that stops half-way do not keep the third from setting all levels. -/
theorem levels_after_threeCalls :
    let before := afterAll {} [{ word := "basic_format" },
      { word := "notset", overrides := [("app", "Warn"), ("db", "_styles"), ("web", "debug")] }]
    let done := before.configure "Debug" [("httpx", "error"), ("web", "loud"), ("root", "fatal")]
    (before.outlets = 1 ∧ before.root = 0 ∧ before.ownLevel "app" = 30 ∧ before.ownLevel "web" = 0) ∧
      done.1 = .ok () ∧ done.2.outlets = 1 ∧ done.2.root = 50 ∧ done.2.ownLevel "httpx" = 40 ∧
      done.2.ownLevel "openai" = 30 ∧ done.2.ownLevel "web" = 20 ∧ done.2.ownLevel "app" = 30 ∧
      AsksFor "Debug" 10 := by
  intro before done
  obtain ⟨-, hok, houtlets, hcapitals⟩ := levels_after_configurations {} [{ word := "basic_format" },
      { word := "notset", overrides := [("app", "Warn"), ("db", "_styles"), ("web", "debug")] }]
    { word := "Debug", overrides := [("httpx", "error"), ("web", "loud"), ("root", "fatal")] }
  refine ⟨by decide, hok.mpr (by decide), ?_, by decide, by decide, by decide, by decide, by decide,
    ((hcapitals _ Text.isUpperCase_capitals "Debug").1 10).mpr (Or.inl (StandardLevel.level .debug))⟩
  rw [show done.2.outlets = _ from houtlets]
  decide

/-- The name of the plain format is looked up for a level, though it names none; so the level of information, which is
    asked for, is not set, and the root is left without an outlet. -/
theorem configure_basicFormat :
    let s : Setup := {}
    s.configure "basic_format" [] =
        (.error (.raised .valueError "Unknown level: '%(levelname)s:%(name)s:%(message)s'"), s) ∧
      AsksFor "basic_format" Level.info.rank ∧ ¬Configured s "basic_format" [] s := by
  intro s
  have hrefused : IsRefused "basic_format" (.raised .valueError "Unknown level: '%(levelname)s:%(name)s:%(message)s'") :=
    NoLevel.format
  exact ⟨configure_of_isRefused hrefused, asksFor_of_isRefused hrefused, fun h => nomatch h.outlets⟩

end Setup

end Logging

namespace CommandLine

open Logging (IsTaken IsRefused)

variable {μ : Type} {around : List (String × String)} {models : Settings → Except Failure (Option (Models μ))}
  {c : Command} {s : Session μ} {settings : Settings}

/-- A command does its work with logging configured by the settings. -/
theorem start_of_isTaken (hload : Settings.load s.workspace.tree s.workspace.here around = .ok settings)
    (h : IsTaken settings.logLevel) :
    ∃ setup, Logging.Setup.Configured {} settings.logLevel [] setup ∧
      start around models c s = execute setup settings (models settings) c s := by
  obtain ⟨rank, hrank, hasks⟩ := h.exists_level
  refine ⟨_, Logging.Setup.configured_setLevels hasks (List.forall_mem_nil _) List.nodup_nil, ?_⟩
  rw [start, hload]
  simp only [Logging.Setup.configure_of_ok hrank]
  rfl

/-- A command ends before any work where the settings have a word for the level that is refused. -/
theorem start_of_isRefused {f : Failure} (hload : Settings.load s.workspace.tree s.workspace.here around = .ok settings)
    (h : IsRefused settings.logLevel f) : start around models c s = ({ ending := .error f }, s) := by
  rw [start, hload]
  simp only [Logging.Setup.configure_of_isRefused h]

end CommandLine

end CodeAtlas
