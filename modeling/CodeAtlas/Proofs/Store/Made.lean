import CodeAtlas.Proofs.Store.Directories
import CodeAtlas.Proofs.Store.Writes
import Mathlib

/-! Directories that are made for a database. What is made leads to no other place; and one more file in a tree is in
    nobody's way as long as its place stays free in the end. -/

namespace CodeAtlas

open FileTree Store

variable {t u v final : FileTree} {here place p : Place} {path : Path} {content content' : Content}

/-! ### One more file -/

namespace FileTree

/-- The second tree is the first one with one more file. -/
structure Gains (place : Place) (content : Content) (t u : FileTree) : Prop where
  gained : u.entry? place = some (.file content)
  others : ∀ p, p ≠ place → u.entry? p = t.entry? p

theorem gains_put (h : place ≠ []) : Gains place content t (t.put place (.file content)) :=
  ⟨entry?_put_self h, fun _ hp => entry?_put_of_ne hp⟩

namespace Gains

theorem put (h : Gains place content t u) (hp : p ≠ []) (hne : p ≠ place) (e : Entry) :
    Gains place content (t.put p e) (u.put p e) where
  gained := by rw [entry?_put_of_ne hne.symm, h.gained]
  others q hq := by
    by_cases heq : q = p
    · rw [heq, entry?_put_self hp, entry?_put_self hp]
    · rw [entry?_put_of_ne heq, entry?_put_of_ne heq, h.others q hq]

/-- What the file holds does not matter to where things are. -/
theorem sameOutline (hu : Gains place content t u) (hv : Gains place content' t v) : SameOutline u v := fun q => by
  by_cases hq : q = place
  · rw [hq, hu.gained, hv.gained]
    rfl
  · rw [hu.others q hq, hv.others q hq]

/-- Names that lead somewhere in the end, where the place is still free, do not pass it. -/
theorem stride_eq (h : Gains place content t u) (hextends : Extends t final) (hfree : final.entry? place = none)
    (last : Bool) (dir : Place) (names : List String) (harrives : ∀ kind, stride final last dir names ≠ .fault kind) :
    stride u last dir names = stride t last dir names := by
  induction dir, names using stride_induction with
  | nil dir => rfl
  | dot dir rest ih => exact ih harrives
  | dotdot dir rest ih => exact ih harrives
  | name dir name rest hdot hdotdot ih =>
    rw [stride_name hdot hdotdot] at harrives
    rw [stride_name hdot hdotdot, stride_name hdot hdotdot]
    by_cases hsize : nameLimit < name.utf8ByteSize
    · rw [if_pos hsize, if_pos hsize]
    · rw [if_neg hsize] at harrives
      rw [if_neg hsize, if_neg hsize]
      have hne : dir ++ [name] ≠ place := fun heq => by
        rw [heq, hfree] at harrives
        exact harrives _ rfl
      rw [h.others _ hne]
      cases hentry : t.entry? (dir ++ [name]) with
      | none => rfl
      | some e =>
        cases e with
        | directory =>
          obtain ⟨e', he', hlike⟩ := hextends _ _ hentry
          obtain rfl := Entry.outline_eq_directory.mp hlike
          rw [he'] at harrives
          exact ih _ harrives
        | file content => rfl
        | link target => rfl

theorem follow_eq {t u final : FileTree} {place : Place} {content : Content} (h : Gains place content t u)
    (hextends : Extends t final) (hfree : final.entry? place = none) {last : Bool} {links : Nat} {dir : Place}
    {names : List String} {a : Located} (hfinal : follow final last links dir names = .ok a) :
    follow u last links dir names = follow t last links dir names := by
  have hstride := h.stride_eq hextends hfree last dir names fun kind hkind => by
    rw [follow, hkind] at hfinal
    cases hfinal
  have hkept := stride_kept hextends last dir names
  unfold follow
  rw [hstride]
  cases hs : stride t last dir names with
  | arrived a => rfl
  | fault kind => rfl
  | link from_ target rest =>
    rw [hs] at hkept
    rw [follow, show stride final last dir names = .link from_ target rest from hkept] at hfinal
    cases links with
    | zero => rfl
    | succ links => exact follow_eq h hextends hfree hfinal

theorem locate_eq (h : Gains place content t u) (hextends : Extends t final) (hfree : final.entry? place = none)
    {last : Bool} {a : Located} (hfinal : final.locate here last path = .ok a) :
    u.locate here last path = t.locate here last path := by
  obtain ⟨-, -, hfollow⟩ := locate_eq_ok_iff.mp hfinal
  have heq := h.follow_eq hextends hfree hfollow
  unfold startOf at heq
  rw [locate, locate, heq]

theorem isDirectory_eq (h : Gains place content t u) (hextends : Extends t final) (hfree : final.entry? place = none)
    (hfinal : final.isDirectory here path = .ok true) : u.isDirectory here path = t.isDirectory here path := by
  obtain ⟨a, ha⟩ := isDirectory_eq_true_iff.mp hfinal
  rw [isDirectory, isDirectory, probe, probe, h.locate_eq hextends hfree ha]

end Gains

theorem Extends.trans (h : Extends t u) (h' : Extends u v) : Extends t v := fun q e he => by
  obtain ⟨e₁, he₁, hlike₁⟩ := h q e he
  obtain ⟨e₂, he₂, hlike₂⟩ := h' q e₁ he₁
  exact ⟨e₂, he₂, hlike₂.trans hlike₁⟩

end FileTree

/-! ### Making directories -/

namespace Database

/-- What holds of every directory that is made holds of all of them. -/
theorem makeDirectories_induction {motive : FileTree → FileTree → Prop} {depth : Nat}
    {done : Except FileFault Unit} (h : makeDirectories here depth t path = (done, u)) (refl : ∀ t, motive t t)
    (trans : ∀ t u v, motive t u → motive u v → motive t v)
    (step : ∀ t u path, makeDirectory t here path = .ok u → motive t u) : motive t u := by
  induction depth generalizing t u path done with
  | zero =>
    unfold makeDirectories at h
    split at h
    · cases h
      exact step _ _ _ ‹_›
    · cases h
      exact refl t
    · cases h
      exact refl t
  | succ depth ih =>
    unfold makeDirectories at h
    split at h
    · cases h
      exact step _ _ _ ‹_›
    · dsimp only at h
      split at h
      · cases h
        exact refl t
      · split at h
        · rename_i hparent
          cases h
          exact ih hparent
        · rename_i hparent
          split at h
          · cases h
            exact trans _ _ _ (ih hparent) (step _ _ _ ‹_›)
          · cases h
            exact ih hparent
          · cases h
            exact ih hparent
    · cases h
      exact refl t

theorem extends_of_makeDirectories {depth : Nat} {done : Except FileFault Unit}
    (h : makeDirectories here depth t path = (done, u)) : Extends t u :=
  makeDirectories_induction h Extends.refl (fun _ _ _ => Extends.trans) fun t u path hmade => by
    obtain ⟨dir, text, -, -, -, hnone, -, -, -, rfl⟩ := makeDirectory_eq_ok hmade
    exact extends_put hnone

/-- A directory that is to be there in the end is made beside the new file as it is made without it. -/
theorem makeDirectory_gains (h : Gains place content t u) (hextends : Extends t final)
    (hfree : final.entry? place = none) (hfinal : final.isDirectory here path = .ok true) :
    (∃ f, makeDirectory t here path = .error f ∧ makeDirectory u here path = .error f) ∨
      ∃ t' u', makeDirectory t here path = .ok t' ∧ makeDirectory u here path = .ok u' ∧
        (Extends t' final → Gains place content t' u') := by
  obtain ⟨a, ha⟩ := exists_locate_of_isDirectory hfinal
  obtain ⟨above, habove⟩ := isDirectory_eq_true_iff.mp (isDirectory_parent hfinal)
  have hlocate := h.locate_eq hextends hfree ha
  have hparent := h.locate_eq hextends hfree habove
  cases hmade : makeDirectory t here path with
  | ok t' =>
    obtain ⟨dir, text, hmissing, hdir, -, hnone, -, hdotdot, -, rfl⟩ := makeDirectory_eq_ok hmade
    refine Or.inr ⟨_, u.put (dir ++ [path.name]) .directory, rfl, ?_, fun hmore => ?_⟩
    · rw [makeDirectory, hlocate, hparent, hmissing, hdir]
      dsimp only
      rw [if_neg hdotdot]
    · have hnil := ne_nil_of_none hnone
      refine h.put hnil (fun heq => ?_) .directory
      -- The place of the file stays free, and so it is not that of the directory.
      obtain ⟨e, he, -⟩ := hmore _ _ (entry?_put_self hnil)
      rw [heq, hfree] at he
      cases he
  | error f =>
    refine Or.inl ⟨f, rfl, ?_⟩
    unfold makeDirectory at hmade ⊢
    rw [hlocate, hparent]
    split at hmade
    · exact hmade
    · split at hmade
      · split at hmade
        · rename_i hdotdot
          rw [if_pos hdotdot]
          exact hmade
        · cases hmade
      · exact hmade
      · exact hmade
    · exact hmade

/-- Where nothing is missing above, or there is nothing above, only the last directory has to be made. -/
theorem makeDirectories_succ_eq_zero {depth : Nat}
    (h : path.parent = path ∨ ∀ text, makeDirectory t here path ≠ .error ⟨.missing, text⟩) :
    makeDirectories here (depth + 1) t path = makeDirectories here 0 t path := by
  unfold makeDirectories
  split
  · rfl
  · rename_i hmissing
    dsimp only
    rw [if_pos (h.resolve_right fun hpresent => hpresent _ hmissing)]
  · rfl

/-- What is missing above is made first. -/
theorem makeDirectories_succ_of_missing {depth : Nat} {text : String}
    (h : makeDirectory t here path = .error ⟨.missing, text⟩) (hparent : path.parent ≠ path) :
    makeDirectories here (depth + 1) t path =
      if (makeDirectories here depth t path.parent).1 = .ok () then
        makeDirectories here 0 (makeDirectories here depth t path.parent).2 path
      else makeDirectories here depth t path.parent := by
  rw [makeDirectories, h]
  dsimp only
  rw [if_neg hparent]
  rcases makeDirectories here depth t path.parent with ⟨_ | ⟨⟨⟩⟩, mid⟩
  · rfl
  · rw [if_pos rfl, makeDirectories]

theorem makeDirectories_zero_gains {done : Except FileFault Unit} {made : FileTree}
    (h : Gains place content t u) (hfree : final.entry? place = none) (hfinal : final.isDirectory here path = .ok true)
    (hmade : makeDirectories here 0 t path = (done, made)) (hextends : Extends made final) :
    ∃ made', makeDirectories here 0 u path = (done, made') ∧ Gains place content made made' := by
  have hbefore := (extends_of_makeDirectories hmade).trans hextends
  unfold makeDirectories at hmade ⊢
  rcases makeDirectory_gains h hbefore hfree hfinal with ⟨f, ht, hu⟩ | ⟨t', u', ht, hu, hgains⟩
  · rw [ht] at hmade
    rw [hu]
    have hunless : ∀ f, unlessDirectory u here path f = unlessDirectory t here path f := fun f => by
      rw [unlessDirectory, unlessDirectory, h.isDirectory_eq hbefore hfree hfinal]
    split at hmade
    · rename_i hok
      cases hok
    · cases hmade
      exact ⟨u, rfl, h⟩
    · cases hmade
      exact ⟨u, by rw [hunless], h⟩
  · rw [ht] at hmade
    cases hmade
    exact ⟨u', by rw [hu], hgains hextends⟩

/-- Directories that are there in the end are made beside the new file as they are made without it. -/
theorem makeDirectories_gains {depth : Nat} {done : Except FileFault Unit} {made : FileTree}
    (h : Gains place content t u) (hfree : final.entry? place = none) (hfinal : final.isDirectory here path = .ok true)
    (hmade : makeDirectories here depth t path = (done, made)) (hextends : Extends made final) :
    ∃ made', makeDirectories here depth u path = (done, made') ∧ Gains place content made made' := by
  induction depth generalizing t u path done made with
  | zero => exact makeDirectories_zero_gains h hfree hfinal hmade hextends
  | succ depth ih =>
    have hbefore := (extends_of_makeDirectories hmade).trans hextends
    have hstep := makeDirectory_gains h hbefore hfree hfinal
    by_cases hlast : path.parent = path ∨ ∀ text, makeDirectory t here path ≠ .error ⟨.missing, text⟩
    · have hlast' : path.parent = path ∨ ∀ text, makeDirectory u here path ≠ .error ⟨.missing, text⟩ := by
        refine hlast.imp_right fun hpresent text hmissing => ?_
        rcases hstep with ⟨f, ht, hu⟩ | ⟨t', u', -, hu, -⟩
        · exact hpresent text (ht.trans (hu.symm.trans hmissing))
        · rw [hu] at hmissing
          cases hmissing
      rw [makeDirectories_succ_eq_zero hlast] at hmade
      rw [makeDirectories_succ_eq_zero hlast']
      exact makeDirectories_zero_gains h hfree hfinal hmade hextends
    · rw [not_or, not_forall] at hlast
      obtain ⟨hparent, text, hmissing⟩ := hlast
      rw [not_not] at hmissing
      have hmissing' : makeDirectory u here path = .error ⟨.missing, text⟩ := by
        rcases hstep with ⟨f, ht, hu⟩ | ⟨t', u', ht, -, -⟩
        · rw [hu, ← ht, hmissing]
        · rw [ht] at hmissing
          cases hmissing
      rw [makeDirectories_succ_of_missing hmissing hparent] at hmade
      rw [makeDirectories_succ_of_missing hmissing' hparent]
      have habove := isDirectory_parent hfinal
      obtain ⟨done', mid, hmid⟩ : ∃ done' mid, makeDirectories here depth t path.parent = (done', mid) := ⟨_, _, rfl⟩
      rw [hmid] at hmade
      by_cases hok : done' = .ok ()
      · rw [if_pos hok] at hmade
        -- The last directory is made in the tree in which those above it have been made.
        obtain ⟨mid', hmid', hgains⟩ := ih h habove hmid ((extends_of_makeDirectories hmade).trans hextends)
        rw [hmid', if_pos hok]
        exact makeDirectories_zero_gains hgains hfree hfinal hmade hextends
      · rw [if_neg hok] at hmade
        obtain ⟨rfl, rfl⟩ := Prod.mk.inj hmade
        obtain ⟨mid', hmid', hgains⟩ := ih h habove hmid hextends
        rw [hmid', if_neg hok]
        exact ⟨mid', rfl, hgains⟩

/-- The directories that were made lead to no other place. -/
theorem place?_of_makeDirectories {depth : Nat} {l : Location} {done : Except FileFault Unit}
    (h : makeDirectories here depth t path = (done, u)) (hplace : l.place? u here = some place) :
    l.place? t here = some place :=
  makeDirectories_induction (motive := fun t u => l.place? u here = some place → l.place? t here = some place) h
    (fun _ => id) (fun _ _ _ h h' hplace => h (h' hplace)) (fun t u path hmade hplace => by
      obtain ⟨dir, text, -, -, -, hnone, -, -, -, rfl⟩ := makeDirectory_eq_ok hmade
      exact Location.place?_of_put (fun _ => Entry.noConfusion) hnone hplace) hplace

/-- No file comes into being with directories. -/
theorem file_of_makeDirectories {depth : Nat} {done : Except FileFault Unit}
    (h : makeDirectories here depth t path = (done, u)) (hfile : u.entry? place = some (.file content)) :
    t.entry? place = some (.file content) :=
  makeDirectories_induction
    (motive := fun t u => u.entry? place = some (.file content) → t.entry? place = some (.file content)) h
    (fun _ => id) (fun _ _ _ h h' hfile => h (h' hfile)) (fun t u path hmade hfile => by
      obtain ⟨dir, text, -, -, -, hnone, -, -, -, rfl⟩ := makeDirectory_eq_ok hmade
      by_cases heq : place = dir ++ [path.name]
      · rw [heq, entry?_put_self (ne_nil_of_none hnone)] at hfile
        cases hfile
      · rwa [entry?_put_of_ne heq] at hfile) hfile

end Database

end CodeAtlas
