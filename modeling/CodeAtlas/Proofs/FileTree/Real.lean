import CodeAtlas.FileTree.Resolve
import CodeAtlas.Proofs.FileTree.Follow

/-! Real paths. Whatever can be looked up has the place where it is found as its real path: links are followed to the
    same end, whether one after the other or one inside the other. That none of them is met while it is being resolved
    follows from their number on the way, which gets smaller from link to link. -/

namespace CodeAtlas.FileTree

variable {t : FileTree} {here dir place mid link : Place} {names rest : List String} {n k : Nat}

/-! ### Where names lead -/

/-- The directory that the target of a link is seen from. -/
def linkStart (dir : Place) (target : String) : Place := if startsAtRoot target then [] else dir

/-- Names lead from a place to a place, over a number of links. What is missing leads to its own place. -/
inductive Leads (t : FileTree) : Place → List String → Nat → Place → Prop
  | nil {dir : Place} : Leads t dir [] 0 dir
  | dot {dir place : Place} {name : String} {rest : List String} {n : Nat} : name = "." → Leads t dir rest n place →
      Leads t dir (name :: rest) n place
  | dotdot {dir place : Place} {name : String} {rest : List String} {n : Nat} : name = ".." →
    Leads t dir.dropLast rest n place → Leads t dir (name :: rest) n place
  | name {dir place : Place} {name : String} {rest : List String} {n : Nat} : name ≠ "." → name ≠ ".." →
    (∀ target, t.entry? (dir ++ [name]) ≠ some (.link target)) → Leads t (dir ++ [name]) rest n place →
      Leads t dir (name :: rest) n place
  | link {dir mid place : Place} {name target : String} {rest : List String} {k n : Nat} : name ≠ "." → name ≠ ".." →
    t.entry? (dir ++ [name]) = some (.link target) → Leads t (linkStart dir target) (targetNames target) k mid →
    Leads t mid rest n place → Leads t dir (name :: rest) (k + n + 1) place

namespace Leads

theorem append_cases {ys : List String} : ∀ {xs : List String} {dir : Place} {n : Nat}, Leads t dir (xs ++ ys) n place →
    ∃ k l mid, Leads t dir xs k mid ∧ Leads t mid ys l place
  | [], dir, n, h => ⟨0, n, dir, .nil, h⟩
  | x :: xs, dir, n, h => by
    cases h with
    | dot hdot h =>
      obtain ⟨k, l, mid, hxs, hys⟩ := append_cases h
      exact ⟨k, l, mid, .dot hdot hxs, hys⟩
    | dotdot hdotdot h =>
      obtain ⟨k, l, mid, hxs, hys⟩ := append_cases h
      exact ⟨k, l, mid, .dotdot hdotdot hxs, hys⟩
    | name hdot hdotdot hentry h =>
      obtain ⟨k, l, mid, hxs, hys⟩ := append_cases h
      exact ⟨k, l, mid, .name hdot hdotdot hentry hxs, hys⟩
    | link hdot hdotdot hentry htarget h =>
      obtain ⟨k, l, mid, hxs, hys⟩ := append_cases h
      exact ⟨_, l, mid, .link hdot hdotdot hentry htarget hxs, hys⟩

theorem append {more : List String} {m : Nat} {q : Place} (h : Leads t dir names n place) (h' : Leads t place more m q) :
    ∃ k, Leads t dir (names ++ more) k q := by
  induction h with
  | nil => exact ⟨m, h'⟩
  | dot hdot _ ih =>
    obtain ⟨k, hk⟩ := ih h'
    exact ⟨k, hk.dot hdot⟩
  | dotdot hdotdot _ ih =>
    obtain ⟨k, hk⟩ := ih h'
    exact ⟨k, hk.dotdot hdotdot⟩
  | name hdot hdotdot hentry _ ih =>
    obtain ⟨k, hk⟩ := ih h'
    exact ⟨k, hk.name hdot hdotdot hentry⟩
  | link hdot hdotdot hentry htarget _ _ ih =>
    obtain ⟨k, hk⟩ := ih h'
    exact ⟨_, .link hdot hdotdot hentry htarget hk⟩

/-- Without links on the way, names lead to the place that they make up. -/
theorem of_no_link : ∀ {names : List String} {dir : Place}, (∀ name ∈ names, name ≠ "." ∧ name ≠ "..") →
    (∀ q target, q ≠ [] → q <+: names → t.entry? (dir ++ q) ≠ some (.link target)) → Leads t dir names 0 (dir ++ names)
  | [], dir, _, _ => by
    rw [List.append_nil]
    exact .nil
  | first :: names, dir, hnames, hlinks => by
    obtain ⟨⟨hdot, hdotdot⟩, hrest⟩ := List.forall_mem_cons.mp hnames
    have hnext : ∀ q : List String, dir ++ [first] ++ q = dir ++ first :: q := fun q => by simp
    have htail : Leads t (dir ++ [first]) names 0 (dir ++ [first] ++ names) := of_no_link hrest fun q target _ hq => by
      rw [hnext]
      exact hlinks (first :: q) target (List.cons_ne_nil _ _) (List.cons_prefix_cons.mpr ⟨rfl, hq⟩)
    rw [hnext] at htail
    exact htail.name hdot hdotdot fun target =>
      hlinks [first] target (List.cons_ne_nil _ _) (List.cons_prefix_cons.mpr ⟨rfl, List.nil_prefix⟩)

/-- Names lead to one place only, and over the same links. -/
theorem unique {n' : Nat} {place' : Place} (h : Leads t dir names n place) (h' : Leads t dir names n' place') :
    n = n' ∧ place = place' := by
  induction h generalizing n' place' with
  | nil =>
    cases h'
    exact ⟨rfl, rfl⟩
  | dot hdot _ ih =>
    cases h' with
    | dot _ h' => exact ih h'
    | dotdot hdotdot => exact absurd (hdot.symm.trans hdotdot) (by decide)
    | name hne | link hne => exact absurd hdot hne
  | dotdot hdotdot _ ih =>
    cases h' with
    | dot hdot => exact absurd (hdot.symm.trans hdotdot) (by decide)
    | dotdot _ h' => exact ih h'
    | name _ hne | link _ hne => exact absurd hdotdot hne
  | name hdot hdotdot hentry _ ih =>
    cases h' with
    | dot heq => exact absurd heq hdot
    | dotdot heq => exact absurd heq hdotdot
    | name _ _ _ h' => exact ih h'
    | link _ _ hlink => exact absurd hlink (hentry _)
  | link hdot hdotdot hentry _ _ ihtarget ih =>
    cases h' with
    | dot heq => exact absurd heq hdot
    | dotdot heq => exact absurd heq hdotdot
    | name _ _ hno => exact absurd hentry (hno _)
    | link _ _ hentry' htarget' h' =>
      obtain rfl : _ = _ := Entry.link.inj (Option.some.inj (hentry.symm.trans hentry'))
      obtain ⟨rfl, rfl⟩ := ihtarget htarget'
      obtain ⟨rfl, rfl⟩ := ih h'
      exact ⟨rfl, rfl⟩

end Leads

/-! ### Links followed one after the other -/

/-- Where names are followed to is where they lead. A link that has been met leads there with the names behind it. -/
def Follows (t : FileTree) (dir : Place) (names : List String) : Stride → Prop
  | .arrived a => Leads t dir names 0 a.place
  | .link from_ target rest => ∀ n place, Leads t (linkStart from_ target) (targetNames target ++ rest) n place →
      ∃ n, Leads t dir names n place
  | .fault _ => True

theorem Follows.cons {next : Place} {name : String} {st : Stride} (h : Follows t next rest st)
    (hfirst : ∀ n place, Leads t next rest n place → Leads t dir (name :: rest) n place) :
    Follows t dir (name :: rest) st := by
  cases st with
  | arrived a => exact hfirst 0 a.place h
  | link from_ target names => exact fun n place hlink => (h n place hlink).imp fun k => hfirst k place
  | fault kind => trivial

theorem stride_follows (dir : Place) (names : List String) : Follows t dir names (stride t true dir names) := by
  induction dir, names using stride_induction with
  | nil dir => exact .nil
  | dot dir rest ih =>
    rw [stride]
    exact ih.cons fun _ _ => .dot rfl
  | dotdot dir rest ih =>
    rw [stride]
    exact ih.cons fun _ _ => .dotdot rfl
  | name dir name rest hdot hdotdot ih =>
    rw [stride_name hdot hdotdot]
    by_cases hsize : nameLimit < name.utf8ByteSize
    · rw [if_pos hsize]
      trivial
    · rw [if_neg hsize]
      rcases hentry : t.entry? (dir ++ [name]) with _ | _ | content | target
      · trivial
      · exact (ih (dir ++ [name])).cons fun _ _ => .name hdot hdotdot (by simp [hentry])
      · cases rest with
        | nil => exact .name hdot hdotdot (by simp [hentry]) .nil
        | cons second rest => trivial
      · -- The names behind the link come after those of its target.
        have hlink : ∀ n place, Leads t (linkStart dir target) (targetNames target ++ rest) n place →
            ∃ n, Leads t dir (name :: rest) n place := fun n place h => by
          obtain ⟨k, l, mid, htarget, hrest⟩ := h.append_cases
          exact ⟨_, .link hdot hdotdot hentry htarget hrest⟩
        simpa [Follows] using hlink

theorem follow_leads : ∀ {links : Nat} {dir : Place} {names : List String} {a : Located},
    follow t true links dir names = .ok a → ∃ n, Leads t dir names n a.place := by
  intro links
  induction links with
  | zero =>
    intro dir names a h
    have hstride := @stride_follows t dir names
    unfold follow at h
    split at h
    · rename_i found heq
      rw [heq] at hstride
      cases h
      exact ⟨0, hstride⟩
    · cases h
    · cases h
  | succ links ih =>
    intro dir names a h
    have hstride := @stride_follows t dir names
    unfold follow at h
    split at h
    · rename_i found heq
      rw [heq] at hstride
      cases h
      exact ⟨0, hstride⟩
    · cases h
    · rename_i from_ target rest heq
      rw [heq] at hstride
      obtain ⟨n, hn⟩ := ih h
      exact hstride n a.place hn

/-! ### Links resolved one inside the other -/

/-- The target of the link leads to the place. -/
def LinkLeads (t : FileTree) (link : Place) (k : Nat) (place : Place) : Prop :=
  ∃ target, t.entry? link = some (.link target) ∧ Leads t (linkStart link.dropLast target) (targetNames target) k place

theorem LinkLeads.unique {k' : Nat} {place' : Place} (h : LinkLeads t link k place) (h' : LinkLeads t link k' place') :
    k = k' ∧ place = place' := by
  obtain ⟨target, hentry, hleads⟩ := h
  obtain ⟨target', hentry', hleads'⟩ := h'
  obtain rfl : target = target' := Entry.link.inj (Option.some.inj (hentry.symm.trans hentry'))
  exact hleads.unique hleads'

theorem LinkLeads.mem_places (h : LinkLeads t link k place) : link ∈ t.entries.map (·.1) := by
  obtain ⟨target, hentry, -⟩ := h
  have hne : link ≠ [] := by
    rintro rfl
    cases hentry
  exact mem_places_of_entry hne hentry

/-- What is known of a link. -/
def lookUp (seen : Seen) (link : Place) : Option (Option Place) := (seen.find? fun s => s.1 == link).map (·.2)

theorem lookUp_cons_self (link : Place) (known : Option Place) (seen : Seen) :
    lookUp ((link, known) :: seen) link = some known := by
  simp [lookUp]

theorem lookUp_cons_of_ne {other : Place} (h : other ≠ link) (known : Option Place) (seen : Seen) :
    lookUp ((link, known) :: seen) other = lookUp seen other := by
  simp [lookUp, Ne.symm h]

/-- What is known of links is right, and those in `busy` are the ones that are still being resolved. -/
structure Knows (t : FileTree) (seen : Seen) (busy : List Place) : Prop where
  known : ∀ link place, lookUp seen link = some (some place) → ∃ k, LinkLeads t link k place
  busy_iff : ∀ link, lookUp seen link = some none ↔ link ∈ busy

namespace Knows
variable {seen : Seen} {busy : List Place}

theorem empty (t : FileTree) : Knows t [] [] := ⟨fun _ _ h => (by cases h), fun _ => (by simp [lookUp])⟩

theorem enter (h : Knows t seen busy) (link : Place) : Knows t ((link, none) :: seen) (link :: busy) := by
  refine ⟨fun other place hother => ?_, fun other => ?_⟩
  · by_cases heq : other = link
    · rw [heq, lookUp_cons_self] at hother
      cases hother
    · rw [lookUp_cons_of_ne heq] at hother
      exact h.known other place hother
  · by_cases heq : other = link
    · simp [heq, lookUp_cons_self]
    · rw [lookUp_cons_of_ne heq, h.busy_iff, List.mem_cons]
      simp [heq]

theorem leave (h : Knows t seen (link :: busy)) (hnew : link ∉ busy) (hlink : LinkLeads t link k place) :
    Knows t ((link, some place) :: seen) busy := by
  refine ⟨fun other found hother => ?_, fun other => ?_⟩
  · by_cases heq : other = link
    · rw [heq, lookUp_cons_self] at hother
      cases hother
      exact ⟨k, heq ▸ hlink⟩
    · rw [lookUp_cons_of_ne heq] at hother
      exact h.known other found hother
  · by_cases heq : other = link
    · simp [heq, lookUp_cons_self, hnew]
    · rw [lookUp_cons_of_ne heq, h.busy_iff, List.mem_cons]
      simp [heq]

end Knows

/-- How links are entered where at most `depth` of them may be. -/
def entering (t : FileTree) : Nat → Place → List String → Seen → Resolved
  | 0 => fun place names seen => ⟨place ++ names, false, seen⟩
  | depth + 1 => resolveWithin t depth

theorem resolveWithin_eq (t : FileTree) (depth : Nat) : resolveWithin t depth = resolveNames t (entering t depth) := by
  cases depth <;> rfl

section Resolving
variable {enter : Place → List String → Seen → Resolved} {name target : String} {seen : Seen}

theorem resolveNames_name (hdot : name ≠ ".") (hdotdot : name ≠ "..")
    (hentry : ∀ target, t.entry? (dir ++ [name]) ≠ some (.link target)) :
    resolveNames t enter dir (name :: rest) seen = resolveNames t enter (dir ++ [name]) rest seen := by
  rw [resolveNames.eq_4 t enter dir seen name rest hdot hdotdot]
  dsimp only
  split
  · rename_i target hlink
    exact absurd hlink (hentry target)
  · rfl

theorem resolveNames_link (hdot : name ≠ ".") (hdotdot : name ≠ "..")
    (hentry : t.entry? (dir ++ [name]) = some (.link target)) :
    resolveNames t enter dir (name :: rest) seen =
      match lookUp seen (dir ++ [name]) with
      | some (some known) => resolveNames t enter known rest seen
      | some none => ⟨dir ++ [name] ++ rest, false, seen⟩
      | none =>
        let inner := enter (linkStart dir target) (targetNames target) ((dir ++ [name], none) :: seen)
        if inner.settled then resolveNames t enter inner.place rest ((dir ++ [name], some inner.place) :: inner.seen)
        else ⟨inner.place ++ rest, false, inner.seen⟩ := by
  rw [resolveNames.eq_4 t enter dir seen name rest hdot hdotdot]
  dsimp only
  rw [hentry, lookUp]
  dsimp only
  cases hfound : seen.find? fun s => s.1 == dir ++ [name] with
  | none =>
    simp only [Option.map_none, linkStart]
    rfl
  | some found => obtain ⟨_, _ | known⟩ := found <;> simp only [Option.map_some]

end Resolving

/-- The links that are being resolved, over `n` more links: each has at least that many on its way, which is why none
    of them is met again, and so there are not more of them than there are entries. -/
structure Entered (t : FileTree) (busy : List Place) (n depth : Nat) : Prop where
  nodup : busy.Nodup
  longer : ∀ link ∈ busy, ∃ k place, LinkLeads t link k place ∧ n ≤ k
  room : t.entries.length ≤ busy.length + depth

namespace Entered
variable {busy : List Place} {depth : Nat}

theorem empty (t : FileTree) (n : Nat) : Entered t [] n t.entries.length :=
  ⟨List.nodup_nil, fun _ hmem => absurd hmem List.not_mem_nil, Nat.le_add_left _ _⟩

theorem mono {m : Nat} (h : Entered t busy n depth) (hle : m ≤ n) : Entered t busy m depth :=
  ⟨h.nodup, fun link hmem => (h.longer link hmem).imp fun _ => Exists.imp fun _ hk => ⟨hk.1, hle.trans hk.2⟩, h.room⟩

theorem not_mem (h : Entered t busy n depth) (hlink : LinkLeads t link k place) (hlt : k < n) : link ∉ busy := by
  intro hmem
  obtain ⟨k', place', hleads, hle⟩ := h.longer link hmem
  obtain ⟨rfl, -⟩ := hlink.unique hleads
  exact absurd hle (Nat.not_le.mpr hlt)

theorem length_le (h : Entered t busy n depth) : busy.length ≤ t.entries.length := by
  rw [show t.entries.length = (t.entries.map (·.1)).length from (List.length_map _).symm]
  refine (h.nodup.subperm fun link hmem => ?_).length_le
  obtain ⟨_, _, hleads, -⟩ := h.longer link hmem
  exact hleads.mem_places

/-- There is always room for one more link. -/
theorem enter (h : Entered t busy n depth) (hlink : LinkLeads t link k place) (hlt : k < n) :
    ∃ d, depth = d + 1 ∧ Entered t (link :: busy) k d := by
  have hshorter := h.mono hlt.le
  have hentered : ∀ d, t.entries.length ≤ busy.length + 1 + d → Entered t (link :: busy) k d := fun d hroom =>
    ⟨List.nodup_cons.mpr ⟨h.not_mem hlink hlt, h.nodup⟩,
      List.forall_mem_cons.mpr ⟨⟨k, place, hlink, Nat.le_refl k⟩, hshorter.longer⟩, hroom⟩
  have hcount : busy.length + 1 ≤ t.entries.length := (hentered t.entries.length (Nat.le_add_left _ _)).length_le
  have hroom := h.room
  exact ⟨depth - 1, by omega, hentered _ (by omega)⟩

end Entered

/-- Links resolved one inside the other lead where the names lead. -/
theorem resolveWithin_of_leads (h : Leads t dir names n place) : ∀ (depth : Nat) (seen : Seen) (busy : List Place),
    Knows t seen busy → Entered t busy n depth →
      ∃ seen', resolveWithin t depth dir names seen = ⟨place, true, seen'⟩ ∧ Knows t seen' busy := by
  induction h with
  | nil =>
    intro depth seen busy hknows _
    rw [resolveWithin_eq]
    exact ⟨seen, rfl, hknows⟩
  | dot hdot _ ih =>
    intro depth seen busy hknows hentered
    obtain ⟨seen', hresolve, hknows'⟩ := ih depth seen busy hknows hentered
    rw [resolveWithin_eq] at hresolve ⊢
    subst hdot
    exact ⟨seen', hresolve, hknows'⟩
  | dotdot hdotdot _ ih =>
    intro depth seen busy hknows hentered
    obtain ⟨seen', hresolve, hknows'⟩ := ih depth seen busy hknows hentered
    rw [resolveWithin_eq] at hresolve ⊢
    subst hdotdot
    exact ⟨seen', hresolve, hknows'⟩
  | name hdot hdotdot hentry _ ih =>
    intro depth seen busy hknows hentered
    obtain ⟨seen', hresolve, hknows'⟩ := ih depth seen busy hknows hentered
    rw [resolveWithin_eq] at hresolve ⊢
    exact ⟨seen', (resolveNames_name hdot hdotdot hentry).trans hresolve, hknows'⟩
  | @link dir mid place name target rest k n hdot hdotdot hentry htarget _ ihtarget ihrest =>
    intro depth seen busy hknows hentered
    have hlink : LinkLeads t (dir ++ [name]) k mid := ⟨target, hentry, by rwa [List.dropLast_concat]⟩
    have hnew : dir ++ [name] ∉ busy := hentered.not_mem hlink (by omega)
    have hrest : Entered t busy n depth := hentered.mono (by omega)
    rw [resolveWithin_eq, resolveNames_link hdot hdotdot hentry, ← resolveWithin_eq]
    rcases hfound : lookUp seen (dir ++ [name]) with _ | _ | known
    · obtain ⟨d, rfl, hdeeper⟩ := hentered.enter hlink (by omega)
      obtain ⟨inner, hinner, hknows₁⟩ := ihtarget d _ _ (hknows.enter _) hdeeper
      obtain ⟨seen', hresolve, hknows'⟩ := ihrest (d + 1) _ busy (hknows₁.leave hnew hlink) hrest
      refine ⟨seen', ?_, hknows'⟩
      rw [resolveWithin_eq] at hresolve ⊢
      simp only [entering, hinner, if_true]
      exact hresolve
    · exact absurd ((hknows.busy_iff _).mp hfound) hnew
    · obtain ⟨k', hleads⟩ := hknows.known _ _ hfound
      obtain ⟨-, rfl⟩ := hlink.unique hleads
      exact ihrest depth seen busy hknows hrest

/-! ### Straight places -/

/-- A place as it is known without links: no name in it stands for a directory itself or the one above, and no link
    is on the way to it. -/
structure Straight (t : FileTree) (p : Place) : Prop where
  names : ∀ name ∈ p, name ≠ "." ∧ name ≠ ".."
  links : ∀ q target, q <+: p → t.entry? q ≠ some (.link target)

theorem straight_nil (t : FileTree) : Straight t [] := by
  refine ⟨fun _ h => absurd h List.not_mem_nil, fun q target hq hentry => ?_⟩
  rw [List.prefix_nil.mp hq] at hentry
  cases hentry

theorem Straight.of_prefix {p q : Place} (h : Straight t p) (hq : q <+: p) : Straight t q :=
  ⟨fun name hname => h.names name (hq.subset hname), fun r target hr => h.links r target (hr.trans hq)⟩

theorem Straight.concat {name : String} (h : Straight t dir) (hdot : name ≠ ".") (hdotdot : name ≠ "..")
    (hentry : ∀ target, t.entry? (dir ++ [name]) ≠ some (.link target)) : Straight t (dir ++ [name]) := by
  refine ⟨fun other hother => ?_, fun q target hq => ?_⟩
  · rcases List.mem_append.mp hother with hother | hother
    · exact h.names other hother
    · obtain rfl := List.mem_singleton.mp hother
      exact ⟨hdot, hdotdot⟩
  · rcases List.prefix_concat_iff.mp hq with rfl | hq
    · exact hentry target
    · exact h.links q target hq

theorem Straight.linkStart (h : Straight t dir) (target : String) : Straight t (linkStart dir target) := by
  unfold FileTree.linkStart
  split
  · exact straight_nil t
  · exact h

theorem Leads.straight (h : Leads t dir names n place) : Straight t dir → Straight t place := by
  induction h with
  | nil => exact id
  | dot _ _ ih => exact ih
  | dotdot _ _ ih => exact fun hdir => ih (hdir.of_prefix (List.dropLast_prefix _))
  | name hdot hdotdot hentry _ ih => exact fun hdir => ih (hdir.concat hdot hdotdot hentry)
  | @link dir mid place name target rest k n _ _ _ _ _ ihtarget ih =>
    exact fun hdir => ih (ihtarget (hdir.linkStart target))

theorem flatten_of_straight (h : Straight t place) : flatten place = place := by
  have hfold : ∀ (names : List String) (start : Place), (∀ name ∈ names, name ≠ "." ∧ name ≠ "..") →
      names.foldl (fun place name =>
        if name = "." then place else if name = ".." then place.dropLast else place ++ [name]) start = start ++ names := by
    intro names
    induction names with
    | nil => exact fun start _ => (List.append_nil start).symm
    | cons name names ih =>
      intro start hnames
      obtain ⟨⟨hdot, hdotdot⟩, hrest⟩ := List.forall_mem_cons.mp hnames
      rw [List.foldl_cons, if_neg hdot, if_neg hdotdot, ih _ hrest, List.append_assoc, List.singleton_append]
  exact hfold place [] h.names

/-- On the way to a straight place no link is followed. -/
theorem stride_of_straight {last : Bool} : ∀ {names : List String} {dir : Place}, Straight t (dir ++ names) →
    ∀ from_ target rest, stride t last dir names ≠ .link from_ target rest
  | [], dir, _ => fun _ _ _ h => by cases h
  | name :: names, dir, h => fun from_ target rest hstride => by
    obtain ⟨hdot, hdotdot⟩ := h.names name (List.mem_append_right dir List.mem_cons_self)
    have hnext : dir ++ name :: names = dir ++ [name] ++ names := by simp
    rw [stride_name hdot hdotdot] at hstride
    split at hstride
    · cases hstride
    · split at hstride
      · cases hstride
      · exact stride_of_straight (hnext ▸ h) from_ target rest hstride
      · split at hstride <;> cases hstride
      · rename_i other hentry
        exact h.links _ other (hnext ▸ List.prefix_append _ _) hentry

theorem locate_root_of_straight (h : Straight t place) (text : String) :
    t.locate here true ⟨.root, place⟩ ≠ .error ⟨.tooManyLinks, text⟩ := by
  intro hlocate
  unfold locate at hlocate
  split at hlocate
  · cases hlocate
  · split at hlocate
    · cases hlocate
    · cases hfollow : follow t true linkLimit (if Path.isAbsolute ⟨.root, place⟩ then [] else here) place with
      | ok a =>
        rw [hfollow] at hlocate
        cases hlocate
      | error kind =>
        rw [hfollow] at hlocate
        obtain rfl : kind = .tooManyLinks := congrArg FileFault.kind (Except.error.inj hlocate)
        unfold follow at hfollow
        split at hfollow
        · cases hfollow
        · rename_i kind hstride
          cases hfollow
          rcases stride_fault_cases _ _ hstride with h | h | h <;> cases h
        · rename_i from_ target rest hstride
          exact @stride_of_straight t true place [] h from_ target rest hstride

/-! ### Real paths -/

variable {path : Path}

theorem straight_startOf (hhere : Straight t here) (path : Path) : Straight t (startOf here path) := by
  unfold startOf
  split
  · exact straight_nil t
  · exact hhere

/-- The real path of a path is the place that its names lead to. -/
theorem realPath_of_leads (hhere : Straight t here) (hnull : path.text.toList.contains '\x00' = false)
    (hleads : Leads t (startOf here path) path.names n place) : t.realPath here path = .ok ⟨.root, place⟩ := by
  have hstraight := hleads.straight (straight_startOf hhere path)
  obtain ⟨seen, hresolve, -⟩ := resolveWithin_of_leads hleads t.entries.length [] [] (.empty t) (.empty t n)
  have hplace : t.realPlace here path = place := by
    rw [realPlace, show (if path.isAbsolute then [] else here) = startOf here path from rfl, hresolve]
    exact flatten_of_straight hstraight
  unfold realPath
  rw [hnull, if_neg Bool.false_ne_true, hplace]
  dsimp only
  split
  · rename_i text hlocate
    exact absurd hlocate (locate_root_of_straight hstraight text)
  · rfl

theorem exists_leads_of_locate {a : Located} (h : t.locate here true path = .ok a) :
    ∃ n, Leads t (startOf here path) path.names n a.place := by
  obtain ⟨-, -, hfollow⟩ := locate_eq_ok_iff.mp h
  exact follow_leads hfollow

/-- Whatever can be looked up has a real path, which is the place where it is found. -/
theorem realPath_of_locate {a : Located} (hhere : Straight t here) (h : t.locate here true path = .ok a) :
    t.realPath here path = .ok ⟨.root, a.place⟩ := by
  obtain ⟨n, hleads⟩ := exists_leads_of_locate h
  exact realPath_of_leads hhere (locate_eq_ok_iff.mp h).1 hleads

end CodeAtlas.FileTree
