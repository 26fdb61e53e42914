import CodeAtlas.Proofs.Store.Agreement
import Mathlib.Logic.Function.Basic

/-! Several writers at one table. An upsert looks whether the id is there and then writes as it has found, and other
    writers may come in between. What is found stays true of an id that is there, since no row is ever removed; of one
    that is not it need not, and then the writing is refused. -/

namespace CodeAtlas.Store

/-! ### Writers -/

/-- A record that is to be written, and the time of the writing. -/
structure Writer where
  record : Record
  now : Timestamp

/-- How far an upsert has got. -/
inductive Stage where
  | begun
  | looked (present : Bool)
  | ended (outcome : Except Failure Bool)

/-- How many steps an upsert still has to take. -/
def Stage.left : Stage → Nat
  | .begun => 2
  | .looked _ => 1
  | .ended _ => 0

theorem Stage.left_eq_zero_iff {stage : Stage} : stage.left = 0 ↔ ∃ o, stage = .ended o := by
  cases stage <;> simp [left]

/-- A table in the hands of several writers. -/
structure Scene (ι : Type) where
  table : Table
  stage : ι → Stage

variable {ι : Type}

/-- Nobody has begun. -/
def Scene.start (table : Table) : Scene ι := ⟨table, fun _ => .begun⟩

@[simp] theorem Scene.table_start (table : Table) : (start table : Scene ι).table = table := rfl

/-- All writers have a record of the same id, and none that lacks a text. -/
structure Rivals (u : ι → Writer) (id : String) : Prop where
  whole : ∀ c, (u c).record.IsWhole
  same : ∀ c, (u c).record.id = some id

/-- The failure of a writer that another one has come before. -/
def refusal (id : String) : Failure := .store (.writing (some id) (.violation .duplicate))

namespace Rivals
variable {u : ι → Writer} {id : String}

theorem known_put (h : Rivals u id) (l : List Texts) (c : ι) :
    Texts.known (Texts.put l (u c).record.texts) (some id) = true := by
  rw [← h.same c]
  exact Texts.known_put_self l (u c).record.texts

theorem put_put (h : Rivals u id) (l : List Texts) (c d : ι) :
    Texts.put (Texts.put l (u c).record.texts) (u d).record.texts = Texts.put l (u d).record.texts :=
  Texts.put_put ((h.same d).trans (h.same c).symm)

end Rivals

/-! ### Steps -/

namespace Scene

variable [DecidableEq ι]

/-- A writer has got further. -/
def advance (s : Scene ι) (c : ι) (stage : Stage) : Scene ι := { s with stage := Function.update s.stage c stage }

/-- The next step of one writer. -/
def step (u : ι → Writer) (s : Scene ι) (c : ι) : Scene ι :=
  match s.stage c with
  | .begun => s.advance c (.looked (s.table.holds (u c).record.id))
  | .looked present =>
    match s.table.write present (u c).record (u c).now.text with
    | .error v => s.advance c (.ended (.error (.store (.writing (u c).record.id (.violation v)))))
    | .ok table => advance { s with table } c (.ended (.ok !present))
  | .ended _ => s

/-- Steps in the order in which the writers get to take them. -/
def run (u : ι → Writer) (s : Scene ι) (schedule : List ι) : Scene ι := schedule.foldl (step u) s

variable {u : ι → Writer} {s : Scene ι} {c d : ι} {id : String} {stage : Stage}

@[simp] theorem table_advance : (s.advance c stage).table = s.table := rfl

@[simp] theorem stage_advance_self : (s.advance c stage).stage c = stage := Function.update_self ..

theorem stage_advance_of_ne (h : d ≠ c) : (s.advance c stage).stage d = s.stage d := Function.update_of_ne h ..

theorem step_look (hu : Rivals u id) (h : s.stage c = .begun) :
    s.step u c = s.advance c (.looked (Texts.known s.table.texts (some id))) := by
  simp only [step, h, hu.same c, Table.holds_eq]

/-- A writer that has found what is still so writes. -/
theorem step_write (hu : Rivals u id) (h : s.stage c = .looked (Texts.known s.table.texts (some id))) :
    ∃ table, s.step u c = advance { s with table } c (.ended (.ok !Texts.known s.table.texts (some id))) ∧
      table.texts = Texts.put s.table.texts (u c).record.texts := by
  obtain ⟨table, hupsert, htexts, -⟩ := s.table.exists_upsert_of_whole (u c).now (hu.whole c)
  refine ⟨table, ?_, htexts⟩
  simp only [Table.upsert, hu.same c, Table.holds_eq] at hupsert
  simp only [step, h]
  cases hwrite : s.table.write (Texts.known s.table.texts (some id)) (u c).record (u c).now.text with
  | error v =>
    rw [hwrite] at hupsert
    cases hupsert
  | ok written =>
    rw [hwrite] at hupsert
    cases hupsert
    rfl

/-- A writer that has not found what is there by now is refused. -/
theorem step_refused (hu : Rivals u id) (h : s.stage c = .looked false)
    (hknown : Texts.known s.table.texts (some id) = true) : s.step u c = s.advance c (.ended (.error (refusal id))) := by
  have hholds : s.table.holds (some id) = true := (Table.holds_eq id).trans hknown
  have hid := hu.same c
  have hwhole := hu.whole c
  obtain ⟨content, hcontent⟩ := Option.isSome_iff_exists.mp hwhole.content
  obtain ⟨description, hdescription⟩ := Option.isSome_iff_exists.mp hwhole.description
  obtain ⟨keywords, hkeywords⟩ := Option.isSome_iff_exists.mp hwhole.keywords
  have hinsert : s.table.write false (u c).record (u c).now.text = .error .duplicate := by
    simp [Table.write, Table.insert, hid, hcontent, hdescription, hkeywords, Draft.complete, hholds]
  simp only [step, h, hinsert, hid, refusal]

/-! ### Any number of writers -/

/-- What holds however many writers there are and however their steps are interleaved, of a table that said `l` before.
    Only one writer finds its id new, and nobody is refused unless another one has. -/
structure Sound (u : ι → Writer) (id : String) (l : List Texts) (s : Scene ι) : Prop where
  said : (s.table.texts = l ∧ ∀ c isNew, s.stage c ≠ .ended (.ok isNew)) ∨
    ∃ c isNew, s.stage c = .ended (.ok isNew) ∧ s.table.texts = Texts.put l (u c).record.texts
  found : ∀ c, s.stage c = .looked true → Texts.known s.table.texts (some id) = true
  missed : ∀ c, s.stage c = .looked false → Texts.known l (some id) = false
  creator : Texts.known l (some id) = false → Texts.known s.table.texts (some id) = true →
    ∃ c, s.stage c = .ended (.ok true)
  created : ∀ c, s.stage c = .ended (.ok true) → Texts.known l (some id) = false ∧
    Texts.known s.table.texts (some id) = true ∧ ∀ d, s.stage d = .ended (.ok true) → d = c
  refused : ∀ c f, s.stage c = .ended (.error f) → f = refusal id ∧ ∃ d, s.stage d = .ended (.ok true)

theorem stage_advance_of_ended {o : Except Failure Bool} (hc : ∀ o, s.stage c ≠ .ended o) (hd : s.stage d = .ended o) :
    (s.advance c stage).stage d = .ended o := by
  have hne : d ≠ c := by
    rintro rfl
    exact hc o hd
  rw [stage_advance_of_ne hne, hd]

namespace Sound
variable {l : List Texts}

omit [DecidableEq ι] in
theorem start (table : Table) : Sound u id table.texts (start table) where
  said := Or.inl ⟨rfl, fun _ _ h => by cases h⟩
  found c h := by cases h
  missed c h := by cases h
  creator hnew hknown := absurd (hnew.symm.trans hknown) Bool.false_ne_true
  created c h := by cases h
  refused c f h := by cases h

omit [DecidableEq ι] in
theorem known_now (h : Sound u id l s) (hu : Rivals u id) (hl : Texts.known l (some id) = true) :
    Texts.known s.table.texts (some id) = true := by
  rcases h.said with ⟨hsaid, -⟩ | ⟨c, isNew, -, hsaid⟩
  · rw [hsaid, hl]
  · rw [hsaid, hu.known_put]

/-- A writer gets further without writing. -/
theorem pass (h : Sound u id l s) (hc : ∀ o, s.stage c ≠ .ended o) (hok : ∀ o, stage ≠ .ended (.ok o))
    (hfound : stage = .looked true → Texts.known s.table.texts (some id) = true)
    (hmissed : stage = .looked false → Texts.known l (some id) = false)
    (hrefused : ∀ f, stage = .ended (.error f) → f = refusal id ∧ ∃ d, s.stage d = .ended (.ok true)) :
    Sound u id l (s.advance c stage) := by
  have hback : ∀ d o, (s.advance c stage).stage d = .ended (.ok o) → s.stage d = .ended (.ok o) := by
    intro d o hd
    by_cases hdc : d = c
    · rw [hdc, stage_advance_self] at hd
      exact absurd hd (hok o)
    · rwa [stage_advance_of_ne hdc] at hd
  constructor
  case said =>
    rcases h.said with ⟨hsaid, hnobody⟩ | ⟨d, isNew, hd, hsaid⟩
    · exact Or.inl ⟨hsaid, fun d isNew hd => hnobody d isNew (hback d _ hd)⟩
    · exact Or.inr ⟨d, isNew, stage_advance_of_ended hc hd, hsaid⟩
  case found =>
    intro d hd
    by_cases hdc : d = c
    · rw [hdc, stage_advance_self] at hd
      exact hfound hd
    · rw [stage_advance_of_ne hdc] at hd
      exact h.found d hd
  case missed =>
    intro d hd
    by_cases hdc : d = c
    · rw [hdc, stage_advance_self] at hd
      exact hmissed hd
    · rw [stage_advance_of_ne hdc] at hd
      exact h.missed d hd
  case creator =>
    intro hnew hknown
    obtain ⟨d, hd⟩ := h.creator hnew hknown
    exact ⟨d, stage_advance_of_ended hc hd⟩
  case created =>
    intro d hd
    obtain ⟨hnew, hknown, honly⟩ := h.created d (hback d _ hd)
    exact ⟨hnew, hknown, fun e he => honly e (hback e _ he)⟩
  case refused =>
    intro d f hd
    have hgiven : f = refusal id ∧ ∃ e, s.stage e = .ended (.ok true) := by
      by_cases hdc : d = c
      · rw [hdc, stage_advance_self] at hd
        exact hrefused f hd
      · rw [stage_advance_of_ne hdc] at hd
        exact h.refused d f hd
    obtain ⟨hf, e, he⟩ := hgiven
    exact ⟨hf, e, stage_advance_of_ended hc he⟩

/-- A writer writes what it has found to be so. -/
theorem write (h : Sound u id l s) (hu : Rivals u id) {table : Table} (hc : ∀ o, s.stage c ≠ .ended o)
    (hwritten : table.texts = Texts.put s.table.texts (u c).record.texts) :
    Sound u id l (advance { s with table } c (.ended (.ok !Texts.known s.table.texts (some id)))) := by
  have hknown : Texts.known table.texts (some id) = true := by rw [hwritten, hu.known_put]
  constructor
  case said =>
    refine Or.inr ⟨c, _, stage_advance_self, ?_⟩
    rw [table_advance, hwritten]
    rcases h.said with ⟨hsaid, -⟩ | ⟨d, isNew, -, hsaid⟩
    · rw [hsaid]
    · rw [hsaid, hu.put_put]
  case found => exact fun d hd => hknown
  case missed =>
    intro d hd
    have hdc : d ≠ c := by
      rintro rfl
      rw [stage_advance_self] at hd
      cases hd
    rw [stage_advance_of_ne hdc] at hd
    exact h.missed d hd
  case creator =>
    intro hnew _
    cases hbefore : Texts.known s.table.texts (some id) with
    | true =>
      obtain ⟨d, hd⟩ := h.creator hnew hbefore
      exact ⟨d, stage_advance_of_ended hc hd⟩
    | false => exact ⟨c, by simp⟩
  case created =>
    intro d hd
    cases hbefore : Texts.known s.table.texts (some id) with
    | true =>
      -- The writer has found the id, so that it is another one that has found it new.
      have hback : ∀ e, (advance { s with table } c (.ended (.ok !true))).stage e = .ended (.ok true) →
          s.stage e = .ended (.ok true) := by
        intro e he
        by_cases hec : e = c
        · rw [hec, stage_advance_self] at he
          cases he
        · rwa [stage_advance_of_ne hec] at he
      rw [hbefore] at hd
      obtain ⟨hnew, -, honly⟩ := h.created d (hback d hd)
      exact ⟨hnew, hknown, fun e he => honly e (hback e he)⟩
    | false =>
      -- Nobody has found the id new before, or it would be known.
      have hself : ∀ e, (advance { s with table } c (.ended (.ok !false))).stage e = .ended (.ok true) → e = c := by
        intro e he
        by_contra hec
        rw [stage_advance_of_ne hec] at he
        obtain ⟨-, hknown', -⟩ := h.created e he
        rw [hbefore] at hknown'
        cases hknown'
      rw [hbefore] at hd
      refine ⟨?_, hknown, fun e he => (hself e he).trans (hself d hd).symm⟩
      rw [Bool.eq_false_iff]
      intro hl
      rw [h.known_now hu hl] at hbefore
      cases hbefore
  case refused =>
    intro d f hd
    have hdc : d ≠ c := by
      rintro rfl
      rw [stage_advance_self] at hd
      cases hd
    rw [stage_advance_of_ne hdc] at hd
    obtain ⟨hf, e, he⟩ := h.refused d f hd
    exact ⟨hf, e, stage_advance_of_ended hc he⟩

theorem step (h : Sound u id l s) (hu : Rivals u id) (c : ι) : Sound u id l (s.step u c) := by
  cases hc : s.stage c with
  | begun =>
    rw [step_look hu hc]
    refine h.pass (by simp [hc]) (by simp) (fun hl => Stage.looked.inj hl) (fun hl => ?_) (by simp)
    rw [Bool.eq_false_iff]
    intro hknown
    have hmissed := Stage.looked.inj hl
    rw [h.known_now hu hknown] at hmissed
    cases hmissed
  | looked present =>
    have hnot : ∀ o, s.stage c ≠ .ended o := by simp [hc]
    by_cases hsame : present = Texts.known s.table.texts (some id)
    · rw [hsame] at hc
      obtain ⟨table, hstep, hwritten⟩ := step_write hu hc
      rw [hstep]
      exact h.write hu hnot hwritten
    · -- What has been found does not cease to be so, hence the id was missed and is there by now.
      cases present with
      | true => exact absurd (h.found c hc).symm hsame
      | false =>
        have hknown : Texts.known s.table.texts (some id) = true := by simpa using Ne.symm hsame
        rw [step_refused hu hc hknown]
        refine h.pass hnot (by simp) (by simp) (by simp) fun f hf => ?_
        obtain rfl : refusal id = f := Except.error.inj (Stage.ended.inj hf)
        exact ⟨rfl, h.creator (h.missed c hc) hknown⟩
  | ended o =>
    have hstay : s.step u c = s := by simp only [Scene.step, hc]
    rwa [hstay]

theorem run (hu : Rivals u id) (schedule : List ι) : ∀ {s : Scene ι}, Sound u id l s → Sound u id l (s.run u schedule) := by
  induction schedule with
  | nil => exact fun h => h
  | cons c rest ih => exact fun h => ih (h.step hu c)

omit [DecidableEq ι] in
/-- Once a writer has written, the id is there. -/
theorem known_of_written (h : Sound u id l s) (hu : Rivals u id) {isNew : Bool} (hc : s.stage c = .ended (.ok isNew)) :
    Texts.known s.table.texts (some id) = true := by
  rcases h.said with ⟨-, hnobody⟩ | ⟨d, _, -, hsaid⟩
  · exact absurd hc (hnobody c isNew)
  · rw [hsaid, hu.known_put]

omit [DecidableEq ι] in
/-- Of a new id, one of those that are through has found it new. -/
theorem exists_creator (h : Sound u id l s) (hu : Rivals u id) (hnew : Texts.known l (some id) = false)
    {o : Except Failure Bool} (hc : s.stage c = .ended o) : ∃! d, s.stage d = .ended (.ok true) := by
  obtain ⟨d, hd⟩ : ∃ d, s.stage d = .ended (.ok true) := by
    cases o with
    | error f => exact (h.refused c f hc).2
    | ok isNew => exact h.creator hnew (h.known_of_written hu hc)
  exact ⟨d, hd, (h.created d hd).2.2⟩

omit [DecidableEq ι] in
/-- Of an id that was there before, nobody is refused or finds it new. -/
theorem outcome_of_known (h : Sound u id l s) (hl : Texts.known l (some id) = true) {o : Except Failure Bool}
    (hc : s.stage c = .ended o) : o = .ok false := by
  have hcreated : ∀ d, s.stage d ≠ .ended (.ok true) := fun d hd =>
    absurd (hl.symm.trans (h.created d hd).1) Bool.false_ne_true.symm
  match o, hc with
  | .error f, hc =>
    obtain ⟨-, d, hd⟩ := h.refused c f hc
    exact absurd hd (hcreated d)
  | .ok true, hc => exact absurd hc (hcreated c)
  | .ok false, _ => rfl

end Sound

/-! ### Whole runs -/

/-- A step takes a writer on by one, and nobody else. -/
theorem left_step (u : ι → Writer) (s : Scene ι) (c d : ι) :
    ((s.step u c).stage d).left = (s.stage d).left - if d = c then 1 else 0 := by
  by_cases hdc : d = c
  · subst hdc
    rw [if_pos rfl]
    cases hd : s.stage d with
    | begun => simp [step, hd, Stage.left]
    | looked present =>
      cases hwrite : s.table.write present (u d).record (u d).now.text <;> simp [step, hd, hwrite, Stage.left]
    | ended o => simp [step, hd, Stage.left]
  · rw [if_neg hdc, Nat.sub_zero]
    unfold step
    split
    · rw [stage_advance_of_ne hdc]
    · split <;> rw [stage_advance_of_ne hdc]
    · rfl

theorem left_run (u : ι → Writer) (c : ι) (schedule : List ι) : ∀ s : Scene ι,
    ((s.run u schedule).stage c).left = (s.stage c).left - schedule.count c := by
  induction schedule with
  | nil => exact fun s => rfl
  | cons d rest ih =>
    intro s
    have hrest : ((s.run u (d :: rest)).stage c).left = ((s.step u d).stage c).left - rest.count c := ih (s.step u d)
    rw [hrest, left_step]
    rcases eq_or_ne c d with rfl | hcd
    · rw [if_pos rfl, List.count_cons_self]
      omega
    · rw [if_neg hcd, List.count_cons_of_ne hcd.symm, Nat.sub_zero]

/-- Any number of upserts of one id, interleaved in whatever way. A writer is through after two steps. Where the id was
    there before, all succeed and nobody finds it new. Where it was not, exactly one of those that are through has found
    it new, and the others have succeeded or have been refused as it is there by then. The table says what one of those
    that succeeded has written, and what it said before as long as there is none. -/
theorem upserts_of_rivals (hu : Rivals u id) (table : Table) (schedule : List ι) :
    let s := (start table).run u schedule
    (∀ c, (∃ o, s.stage c = .ended o) ↔ 2 ≤ schedule.count c) ∧
    (table.holds (some id) = true → ∀ c o, s.stage c = .ended o → o = .ok false) ∧
    (table.holds (some id) = false → ∀ c o, s.stage c = .ended o →
      (∃! d, s.stage d = .ended (.ok true)) ∧ (o = .error (refusal id) ∨ ∃ isNew, o = .ok isNew)) ∧
    ((s.table.texts = table.texts ∧ ∀ c isNew, s.stage c ≠ .ended (.ok isNew)) ∨
      ∃ c isNew, s.stage c = .ended (.ok isNew) ∧ s.table.texts = Texts.put table.texts (u c).record.texts) := by
  intro s
  have hsound : Sound u id table.texts s := Sound.run hu schedule (Sound.start table)
  simp only [Table.holds_eq]
  refine ⟨fun c => ?_, fun hl c o => hsound.outcome_of_known hl, fun hnew c o hc => ⟨hsound.exists_creator hu hnew hc, ?_⟩,
    hsound.said⟩
  · have hleft : (s.stage c).left = 2 - schedule.count c := left_run u c schedule (start table)
    rw [← Stage.left_eq_zero_iff, hleft]
    omega
  · cases o with
    | error f => exact Or.inl (congrArg _ (hsound.refused c f hc).1)
    | ok isNew => exact Or.inr ⟨isNew, rfl⟩

/-! ### Two writers -/

variable {a b : ι}

/-- Two writers take two steps each, and one of them comes last. -/
theorem exists_last {schedule : List ι} (hab : a ≠ b) (h : schedule.Perm [a, a, b, b]) :
    ∃ c d, (c = a ∧ d = b ∨ c = b ∧ d = a) ∧
      (schedule = [c, c, d, d] ∨ schedule = [c, d, c, d] ∨ schedule = [d, c, c, d]) := by
  have hlength : schedule.length = 4 := h.length_eq
  obtain ⟨w, x, y, z, rfl⟩ := List.length_eq_four.mp hlength
  have hmem : ∀ e ∈ [w, x, y, z], e = a ∨ e = b := fun e he => by simpa using h.mem_iff.mp he
  have hcount : [w, x, y, z].count a = 2 := by
    rw [h.count_eq]
    simp [hab.symm]
  simp only [List.forall_mem_cons] at hmem
  obtain ⟨hw, hx, hy, hz, -⟩ := hmem
  -- Of the orders that end alike, those with two steps of either writer are left by the count.
  rcases hz with rfl | rfl
  · refine ⟨b, z, Or.inr ⟨rfl, rfl⟩, ?_⟩
    rcases hw with rfl | rfl <;> rcases hx with rfl | rfl <;> rcases hy with rfl | rfl <;>
      simp [hab, hab.symm] at hcount ⊢
  · refine ⟨a, z, Or.inl ⟨rfl, rfl⟩, ?_⟩
    rcases hw with rfl | rfl <;> rcases hx with rfl | rfl <;> rcases hy with rfl | rfl <;>
      simp [hab, hab.symm] at hcount ⊢

theorem run_nil (s : Scene ι) : s.run u [] = s := rfl

theorem run_cons (s : Scene ι) (c : ι) (rest : List ι) : s.run u (c :: rest) = (s.step u c).run u rest := rfl

/-- A writer that nobody comes between puts its texts. -/
theorem run_undisturbed (hu : Rivals u id) (h : s.stage c = .begun) : ∃ table,
    s.run u [c, c] = advance { s with table } c (.ended (.ok !Texts.known s.table.texts (some id))) ∧
      table.texts = Texts.put s.table.texts (u c).record.texts := by
  have hlooked : (s.step u c).stage c = .looked (Texts.known (s.step u c).table.texts (some id)) := by
    rw [step_look hu h, stage_advance_self, table_advance]
  obtain ⟨table, hstep, hwritten⟩ := step_write hu hlooked
  rw [step_look hu h] at hstep hwritten
  refine ⟨table, ?_, hwritten⟩
  rw [run_cons, step_look hu h, run_cons, hstep]
  simp [run, advance]

/-- One upsert is over when the other begins. -/
theorem run_in_turn (hu : Rivals u id) (hcd : c ≠ d) (table : Table) :
    ((start table).run u [c, c, d, d]).stage c = .ended (.ok !Texts.known table.texts (some id)) ∧
      ((start table).run u [c, c, d, d]).stage d = .ended (.ok false) ∧
      ((start table).run u [c, c, d, d]).table.texts = Texts.put table.texts (u d).record.texts := by
  obtain ⟨first, hfirst, hwritten⟩ := run_undisturbed hu (s := start table) (c := c) rfl
  have hd : ((start table).run u [c, c]).stage d = .begun := by
    rw [hfirst, stage_advance_of_ne hcd.symm]
    rfl
  obtain ⟨second, hsecond, hrewritten⟩ := run_undisturbed hu hd
  have hboth : (start table).run u [c, c, d, d] = ((start table).run u [c, c]).run u [d, d] := rfl
  have htable : ((start table).run u [c, c]).table = first := by rw [hfirst, table_advance]
  have hknown : Texts.known first.texts (some id) = true := by rw [hwritten, hu.known_put]
  rw [hboth, hsecond, htable, hknown]
  refine ⟨?_, stage_advance_self, ?_⟩
  · rw [stage_advance_of_ne hcd, hfirst]
    exact stage_advance_self
  · rw [table_advance, hrewritten, htable, hwritten, hu.put_put]
    rfl

/-- Two writers write after both of them have looked. -/
theorem run_overlapping (hu : Rivals u id) (hcd : c ≠ d) {known : Bool} (hknown : Texts.known s.table.texts (some id) = known)
    (hc : s.stage c = .looked known) (hd : s.stage d = .looked known) :
    (s.run u [c, d]).stage c = .ended (.ok !known) ∧
      (s.run u [c, d]).stage d = .ended (if known then .ok false else .error (refusal id)) ∧
      (s.run u [c, d]).table.texts = Texts.put s.table.texts (u (if known then d else c)).record.texts := by
  obtain ⟨table, hstep, hwritten⟩ := step_write hu (hknown.symm ▸ hc)
  have hafter : Texts.known table.texts (some id) = true := by rw [hwritten, hu.known_put]
  have hd' : (s.step u c).stage d = .looked known := by
    rw [hstep, stage_advance_of_ne hcd.symm]
    exact hd
  have htable : (s.step u c).table = table := by rw [hstep, table_advance]
  have hc' : (s.step u c).stage c = .ended (.ok !known) := by rw [hstep, stage_advance_self, hknown]
  cases known with
  | true =>
    obtain ⟨last, hlast, hput⟩ := step_write hu (s := s.step u c) (c := d) (by rw [hd', htable, hafter])
    rw [run_cons, run_cons, run_nil, hlast, htable, hafter]
    refine ⟨?_, stage_advance_self, ?_⟩
    · rw [stage_advance_of_ne hcd]
      exact hc'
    · rw [table_advance, hput, htable, hwritten, hu.put_put, if_pos rfl]
  | false =>
    rw [run_cons, run_cons, run_nil, step_refused hu hd' (by rw [htable, hafter])]
    refine ⟨?_, stage_advance_self, ?_⟩
    · rw [stage_advance_of_ne hcd, hc']
    · rw [table_advance, htable, hwritten, if_neg Bool.false_ne_true]

/-- Two writers look before either writes. -/
theorem run_looks (hu : Rivals u id) (hcd : c ≠ d) (table : Table) :
    ((start table).run u [c, d]).table = table ∧
      ∀ e, e = c ∨ e = d → ((start table).run u [c, d]).stage e = .looked (Texts.known table.texts (some id)) := by
  have hd : ((start table : Scene ι).advance c (.looked (Texts.known table.texts (some id)))).stage d = .begun := by
    rw [stage_advance_of_ne hcd.symm]
    rfl
  rw [run_cons, run_cons, run_nil, step_look hu (s := start table) rfl, table_start, step_look hu hd]
  refine ⟨rfl, ?_⟩
  rintro e (rfl | rfl)
  · rw [stage_advance_of_ne hcd, stage_advance_self]
  · rw [stage_advance_self]
    rfl

/-- Two upserts of one id, interleaved in whatever way. Where the id was there before, or one upsert is over when the
    other begins, both succeed: the first to write finds the id new if it was not there, and the texts of the last one
    stand in the table. Where the id was not there and both look before either writes, the last one is refused, and the
    table has the texts of the first. -/
theorem upserts_interleaved (u : ι → Writer) (id : String) (hu : Rivals u id) (table : Table) (a b : ι) (hab : a ≠ b)
    (schedule : List ι) (h : schedule.Perm [a, a, b, b]) :
    let s := (start table).run u schedule
    ∃ c d, (c = a ∧ d = b ∨ c = b ∧ d = a) ∧ schedule.getLast? = some d ∧
      (table.holds (some id) = true ∨ schedule = [c, c, d, d] →
        s.stage c = .ended (.ok !table.holds (some id)) ∧ s.stage d = .ended (.ok false) ∧
        s.table.texts = Texts.put table.texts (u d).record.texts) ∧
      (table.holds (some id) = false → schedule ≠ [c, c, d, d] →
        s.stage c = .ended (.ok true) ∧ s.stage d = .ended (.error (refusal id)) ∧
        s.table.texts = Texts.put table.texts (u c).record.texts) := by
  intro s
  obtain ⟨c, d, hnames, horder⟩ := exists_last hab h
  have hcd : c ≠ d := by
    rcases hnames with ⟨rfl, rfl⟩ | ⟨rfl, rfl⟩
    · exact hab
    · exact hab.symm
  have hlast : schedule.getLast? = some d := by rcases horder with rfl | rfl | rfl <;> rfl
  -- Both have looked at the same table, in whichever order, unless one upsert is over when the other begins.
  have hturn : schedule = [c, c, d, d] ∨ schedule ≠ [c, c, d, d] ∧ ∃ looked : Scene ι, s = looked.run u [c, d] ∧
      looked.table = table ∧ ∀ e, e = c ∨ e = d → looked.stage e = .looked (Texts.known table.texts (some id)) := by
    rcases horder with rfl | rfl | rfl
    · exact Or.inl rfl
    · exact Or.inr ⟨by simp [hcd.symm], _, rfl, run_looks hu hcd table⟩
    · obtain ⟨htable, hstage⟩ := run_looks hu hcd.symm table
      exact Or.inr ⟨by simp [hcd.symm], _, rfl, htable, fun e he => hstage e he.symm⟩
  simp only [Table.holds_eq]
  refine ⟨c, d, hnames, hlast, ?_⟩
  rcases hturn with hturn | ⟨hturn, looked, hs, htable, hstage⟩
  · have hboth := run_in_turn hu hcd table
    rw [← hturn] at hboth
    exact ⟨fun _ => hboth, fun _ hne => absurd hturn hne⟩
  · obtain ⟨hc, hd, hsaid⟩ := run_overlapping hu hcd (s := looked) (by rw [htable]) (hstage c (Or.inl rfl)) (hstage d (Or.inr rfl))
    rw [← hs] at hc hd hsaid
    rw [htable] at hsaid
    cases hknown : Texts.known table.texts (some id) with
    | true =>
      rw [hknown] at hc hd hsaid
      exact ⟨fun _ => ⟨hc, hd, hsaid⟩, fun hnew => absurd hnew.symm Bool.false_ne_true⟩
    | false =>
      rw [hknown] at hc hd hsaid
      refine ⟨fun horderly => ?_, fun _ _ => ⟨hc, hd, hsaid⟩⟩
      rcases horderly with hold | hold
      · exact absurd hold Bool.false_ne_true
      · exact absurd hold hturn

/-- Two writers with texts of their own. -/
def rivals : Bool → Writer := fun b => ⟨Workspace.card "x" (if b then "second" else "first") "", ({} : Clock).now⟩

theorem rivals_rivals : Rivals rivals "x" where
  whole _ := Workspace.isWhole_card _ _ _
  same _ := rfl

/-- The second writer looks before the first one writes, and its texts are lost. -/
theorem upsert_refused_in_between :
    let s := (start {}).run rivals [false, true, false, true]
    [false, true, false, true].Perm [false, false, true, true] ∧ s.stage false = .ended (.ok true) ∧
      s.stage true = .ended (.error (refusal "x")) ∧ s.table.texts = [(Workspace.card "x" "first" "").texts] := by
  intro s
  have horder : [false, true, false, true].Perm [false, false, true, true] := by decide
  obtain ⟨c, d, hnames, hlast, -, hrefused⟩ := upserts_interleaved rivals "x" rivals_rivals {} false true (by decide) _ horder
  obtain rfl : true = d := by simpa using hlast
  obtain rfl : c = false := by simpa using hnames
  exact ⟨horder, hrefused rfl (by decide)⟩

/-- Not every two upserts of one id succeed. -/
theorem exists_refused_upsert : ¬∀ (table : Table) (u : Bool → Writer) (id : String), Rivals u id →
    ∀ schedule : List Bool, schedule.Perm [false, false, true, true] →
      ∀ c, ∃ isNew, ((start table).run u schedule).stage c = .ended (.ok isNew) := by
  intro hall
  obtain ⟨isNew, hdone⟩ := hall {} rivals "x" rivals_rivals [false, true, false, true] (by decide) true
  have hrefused : ((start {}).run rivals [false, true, false, true]).stage true = .ended (.error (refusal "x")) := rfl
  rw [hrefused] at hdone
  cases hdone

end Scene

end CodeAtlas.Store
