import CodeAtlas.Proofs.Store.Memory
import CodeAtlas.Proofs.Tool.Dispatch

/-! A registry of tools over any history of registrations. Whatever has been refused in between, under each name the
    first tool that came with it is at hand for good; so no reader of the registry can tell that anything was refused. -/

namespace CodeAtlas

/-- The failure is told as that of a tool which is not known by this name. -/
def Failure.IsUnknownTool (f : Failure) (name : String) : Prop :=
  f.label = "KeyError" ∧ f.message = Text.quoted ("Unknown tool: " ++ name)

namespace Tool

/-- The name that a declaration gives to its tool. -/
def advertisedName? (declaration : Value) : Option Value := (declaration.get? "function").bind (·.get? "name")

namespace Registry
variable {σ τ : Type}

/-- The registry after a tool has been brought to it; one that is refused leaves it as it is. -/
def bring (r : Registry σ) (t : Tool σ) : Registry σ :=
  match r.register t with
  | .ok r => r
  | .error _ => r

/-- The registry that is made by bringing tools to an empty one. -/
def ofHistory (ts : List (Tool σ)) : Registry σ := ts.foldl bring {}

variable {r : Registry σ} {t tool : Tool σ} {ts : List (Tool σ)} {name : String} {names : List String}

/-! ### One registration -/

theorem register_of_taken (h : t.name ∈ r.names) : r.register t = .error (.duplicateTool t.name) := by
  have hsome : (r.get? t.name).isSome := by
    rw [Option.isSome_iff_ne_none]
    exact fun hnone => get?_eq_none_iff.mp hnone h
  rw [register, if_pos hsome]

theorem register_of_free (h : t.name ∉ r.names) : r.register t = .ok ⟨r.tools ++ [t]⟩ := by
  rw [register, get?_eq_none_iff.mpr h]
  rfl

theorem bring_of_taken (h : t.name ∈ r.names) : r.bring t = r := by rw [bring, register_of_taken h]

theorem bring_of_free (h : t.name ∉ r.names) : r.bring t = ⟨r.tools ++ [t]⟩ := by rw [bring, register_of_free h]

theorem names_bring (h : r.names = names.eraseDups) : (r.bring t).names = (names ++ [t.name]).eraseDups := by
  rw [eraseDups_concat, ← h]
  by_cases htaken : t.name ∈ names
  · rw [if_pos htaken, bring_of_taken (h ▸ List.mem_eraseDups.mpr htaken)]
  · rw [if_neg htaken, bring_of_free fun hmem => htaken (List.mem_eraseDups.mp (h ▸ hmem))]
    exact List.map_append

theorem get?_bring (r : Registry σ) (t : Tool σ) (name : String) :
    (r.bring t).get? name = (r.get? name).or ([t].find? fun t => t.name == name) := by
  by_cases htaken : t.name ∈ r.names
  · rw [bring_of_taken htaken]
    cases hget : r.get? name with
    | some tool => rfl
    | none =>
      -- the name of the refused tool is taken, so it is not the one that was looked for in vain
      have hne : t.name ≠ name := fun heq => get?_eq_none_iff.mp hget (heq ▸ htaken)
      simp [hne]
  · rw [bring_of_free htaken]
    exact List.find?_append

/-! ### Any number of them -/

theorem names_foldl_bring (names : List String) (ts : List (Tool σ)) (h : r.names = names.eraseDups) :
    (ts.foldl bring r).names = (names ++ ts.map Tool.name).eraseDups := by
  induction ts generalizing r names with
  | nil => rwa [List.map_nil, List.append_nil]
  | cons t ts ih =>
    rw [List.foldl_cons, ih _ (names_bring h), List.map_cons, List.append_assoc, List.singleton_append]

theorem get?_foldl_bring (r : Registry σ) (ts : List (Tool σ)) (name : String) :
    (ts.foldl bring r).get? name = (r.get? name).or (ts.find? fun t => t.name == name) := by
  induction ts generalizing r with
  | nil => rw [List.find?_nil, Option.or_none, List.foldl_nil]
  | cons t ts ih =>
    rw [List.foldl_cons, ih, get?_bring, Option.or_assoc, ← List.find?_append, List.singleton_append]

theorem names_ofHistory (ts : List (Tool σ)) : (ofHistory ts).names = (ts.map Tool.name).eraseDups :=
  names_foldl_bring [] ts rfl

theorem get?_ofHistory (ts : List (Tool σ)) (name : String) :
    (ofHistory ts).get? name = ts.find? fun t => t.name == name := by
  rw [ofHistory, get?_foldl_bring, show (({} : Registry σ).get? name) = none from rfl, Option.none_or]

theorem mem_names_ofHistory : name ∈ (ofHistory ts).names ↔ name ∈ ts.map Tool.name := by
  rw [names_ofHistory, List.mem_eraseDups]

theorem ofHistory_append (ts later : List (Tool σ)) : ofHistory (ts ++ later) = later.foldl bring (ofHistory ts) :=
  List.foldl_append

/-- Where no name stands twice, each tool is the one at hand under its name. -/
theorem get?_of_mem (hnodup : r.names.Nodup) (h : tool ∈ r.tools) : r.get? tool.name = some tool := by
  cases hget : r.get? tool.name with
  | none => exact absurd (List.mem_map_of_mem h) (get?_eq_none_iff.mp hget)
  | some other =>
    have hname : other.name = tool.name := by simpa using List.find?_some hget
    rw [List.inj_on_of_nodup_map hnodup (mem_tools_of_get? hget) h hname]

/-! ### Readers -/

/-- What the registry shows is that under each name the first tool of the history is at hand. -/
structure Shows (r : Registry σ) (ts : List (Tool σ)) : Prop where
  /-- The names stand in the order in which they first came. -/
  names : r.names = (ts.map Tool.name).eraseDups
  nodup : r.names.Nodup
  get? : ∀ name, r.get? name = ts.find? fun t => t.name == name
  length_declarations : r.declarations.length = r.names.length
  declarations : ∀ (i : Nat) (name : String), r.names[i]? = some name → ∃ tool, r.get? name = some tool ∧
    r.declarations[i]? = some tool.declaration ∧ advertisedName? tool.declaration = some (.text name)

theorem shows_ofHistory (ts : List (Tool σ)) : (ofHistory ts).Shows ts where
  names := names_ofHistory ts
  nodup := names_ofHistory ts ▸ nodup_eraseDups _
  get? := get?_ofHistory ts
  length_declarations := by rw [declarations, Registry.names, List.length_map, List.length_map]
  declarations := fun i name hname => by
    rw [Registry.names, List.getElem?_map, Option.map_eq_some_iff] at hname
    obtain ⟨tool, htool, rfl⟩ := hname
    have hnodup : (ofHistory ts).names.Nodup := names_ofHistory ts ▸ nodup_eraseDups _
    refine ⟨tool, get?_of_mem hnodup (List.mem_of_getElem? htool), ?_, rfl⟩
    rw [Registry.declarations, List.getElem?_map, htool]
    rfl

/-! ### Calls -/

/-- A call fails as one of an unknown tool. -/
def FailsUnknown (r : Registry σ) (observe : Observer τ) (name : String) (arguments : Value.Fields) (s : σ) (u : τ) : Prop :=
  ∃ f, (r.execute observe name arguments s u).1 = .error f ∧ f.IsUnknownTool name

theorem execute_of_not_mem {observe : Observer τ} {arguments : Value.Fields} {s : σ} {u : τ} (h : name ∉ r.names) :
    r.execute observe name arguments s u = (.error (.unknownTool name), s, u) := by
  rw [execute, get?_eq_none_iff.mpr h]

/-- No handler of the tools fails as a call of an unknown tool does. -/
def NoneFailsUnknown (ts : List (Tool σ)) (name : String) : Prop :=
  ∀ tool ∈ ts, ∀ fields s f s', tool.handler fields s = (.error f, s') → ¬f.IsUnknownTool name

theorem observed_of_fails {observe : Observer τ} {call : Call} {s s' : σ} {u u' : τ} {f : Failure}
    (h : Fails tool observe call s u f s' u') (htold : f.IsUnknownTool name)
    (htool : ∀ fields s f s', tool.handler fields s = (.error f, s') → ¬f.IsUnknownTool name) :
    ∃ trace, (observe trace u).1 = .error f := by
  cases h with
  | senseless =>
    have hlabel : "TypeError" = "KeyError" := htold.1
    exact absurd hlabel (by decide)
  | unfit =>
    have hlabel : "ValidationError" = "KeyError" := htold.1
    exact absurd hlabel (by decide)
  | raised _ hhandler => exact absurd htold (htool _ _ _ _ hhandler)
  | unobserved _ _ hraised => exact ⟨_, congrArg Prod.fst hraised⟩

/-- A known tool only fails so where the observer does. -/
theorem observed_of_failsUnknown {observe : Observer τ} {arguments : Value.Fields} {s : σ} {u : τ}
    (h : r.FailsUnknown observe name arguments s u) (hnone : NoneFailsUnknown r.tools name) (hmem : name ∈ r.names) :
    ∃ trace f, (observe trace u).1 = .error f ∧ f.IsUnknownTool name := by
  obtain ⟨f, hf, htold⟩ := h
  cases hget : r.get? name with
  | none => exact absurd hmem (get?_eq_none_iff.mp hget)
  | some tool =>
    obtain ⟨output, s', u', hs⟩ | ⟨failure, s', u', hfails⟩ := succeeds_or_fails tool observe ⟨name, arguments⟩ s u
    · rw [execute_of_succeeds hget hs] at hf
      cases hf
    · -- what is left of the ways to fail is the observer's, as no handler fails like this
      rw [execute_of_fails hget hfails] at hf
      obtain rfl := Except.error.inj hf
      obtain ⟨trace, hraised⟩ := observed_of_fails hfails htold (hnone tool (mem_tools_of_get? hget))
      exact ⟨trace, failure, hraised, htold⟩

theorem tools_ofHistory_subset : ∀ tool ∈ (ofHistory ts).tools, tool ∈ ts := by
  intro tool htool
  have hget := get?_of_mem (shows_ofHistory ts).nodup htool
  rw [get?_ofHistory] at hget
  exact List.mem_of_find?_eq_some hget

/-! ### Histories -/

/-- After any registrations the registry shows the first tool under each name, and does so for good. A tool is refused
    just when its name has been taken, and everything goes on as if it had not been brought. At any time the calls that
    fail as of an unknown tool are those by none of the names, if no handler fails so, nor the observer if there is one. -/
theorem ofHistory_keeps_first_tools (ts : List (Tool σ)) :
    let r := ofHistory ts
    r.Shows ts ∧
    (∀ name tool, r.get? name = some tool → ∀ later, (ofHistory (ts ++ later)).get? name = some tool) ∧
    (∀ t, t.name ∈ ts.map Tool.name →
      (∃ f, r.register t = .error f ∧ f.label = "ValueError" ∧ f.message = "Tool already registered: " ++ t.name) ∧
      ∀ later, ofHistory (ts ++ t :: later) = ofHistory (ts ++ later)) ∧
    (∀ t, t.name ∉ ts.map Tool.name → r.register t = .ok (ofHistory (ts ++ [t]))) ∧
    (∀ (observe : Observer τ) call s u, (r.run observe call s u).1 = .notFound call.name ↔ call.name ∉ r.names) ∧
    ∀ name, NoneFailsUnknown ts name → ∀ arguments s (u : τ),
      (r.FailsUnknown Observer.none name arguments s u ↔ name ∉ r.names) ∧
      ∀ observe : Observer τ, (name ∉ r.names → r.FailsUnknown observe name arguments s u) ∧
        (r.FailsUnknown observe name arguments s u →
          name ∉ r.names ∨ ∃ trace f, (observe trace u).1 = .error f ∧ f.IsUnknownTool name) := by
  intro r
  refine ⟨shows_ofHistory ts, fun name tool hget later => ?_, fun t htaken => ⟨?_, fun later => ?_⟩, fun t hfree => ?_,
    fun observe call s u => ?_, fun name hnone arguments s u => ?_⟩
  · rw [ofHistory_append, get?_foldl_bring, hget, Option.some_or]
  · exact ⟨_, register_of_taken (mem_names_ofHistory.mpr htaken), rfl, rfl⟩
  · rw [ofHistory_append, List.foldl_cons, bring_of_taken (mem_names_ofHistory.mpr htaken), ofHistory_append]
  · have hnew : t.name ∉ r.names := fun hmem => hfree (mem_names_ofHistory.mp hmem)
    rw [ofHistory_append, List.foldl_cons, List.foldl_nil, bring_of_free hnew, register_of_free hnew]
  · exact (ends_of_run rfl).notFound
  · have hunknown : ∀ observe : Observer τ, name ∉ r.names → r.FailsUnknown observe name arguments s u :=
      fun observe hnew => ⟨_, congrArg Prod.fst (execute_of_not_mem hnew), rfl, rfl⟩
    have hknown : ∀ observe : Observer τ, r.FailsUnknown observe name arguments s u →
        name ∉ r.names ∨ ∃ trace f, (observe trace u).1 = .error f ∧ f.IsUnknownTool name := by
      intro observe hfails
      by_cases hmem : name ∈ r.names
      · exact Or.inr
          (observed_of_failsUnknown hfails (fun tool htool => hnone tool (tools_ofHistory_subset tool htool)) hmem)
      · exact Or.inl hmem
    refine ⟨⟨fun hfails => ?_, hunknown _⟩, fun observe => ⟨hunknown observe, hknown observe⟩⟩
    obtain hnew | ⟨trace, f, hobserved, -⟩ := hknown _ hfails
    · exact hnew
    · cases hobserved

/-- A tool that has one thing to say. -/
def saying (name reply : String) : Tool Unit where
  name := name
  description := ""
  arguments := { title := "Nothing", fields := [] }
  handler := fun _ s => (.ok reply, s)

/-- The second tool by the name of "a" is refused, and it is the first one that answers. -/
theorem ofHistory_saying :
    let ts := [saying "a" "one", saying "b" "two"]
    let r := ofHistory ts
    r.names = ["a", "b"] ∧ (∃ f, r.register (saying "a" "three") = .error f ∧ f.label = "ValueError") ∧
      (ofHistory (ts ++ [saying "a" "three", saying "c" "four"])).names = ["a", "b", "c"] ∧
      ((ofHistory (ts ++ [saying "a" "three"])).execute Observer.none "a" [] () ()).1 = .ok "one" ∧
      r.register (saying "c" "four") = .ok (ofHistory (ts ++ [saying "c" "four"])) ∧
      NoneFailsUnknown ts "c" ∧ r.FailsUnknown Observer.none "c" [] () () ∧ ¬r.FailsUnknown Observer.none "b" [] () () := by
  intro ts r
  have hnone : ∀ name, NoneFailsUnknown ts name := by
    intro name tool htool fields s f s' hfails
    rcases List.mem_pair.mp htool with rfl | rfl <;> cases hfails
  obtain ⟨hshows, -, htaken, hfree, -, hfails⟩ := ofHistory_keeps_first_tools (τ := Unit) ts
  have hnames : r.names = ["a", "b"] := hshows.names
  obtain ⟨⟨f, hrefused, hlabel, -⟩, hlater⟩ := htaken (saying "a" "three") (by decide)
  refine ⟨hnames, ⟨f, hrefused, hlabel⟩, ?_, ?_, hfree (saying "c" "four") (by decide), hnone "c", ?_, ?_⟩
  · rw [hlater [saying "c" "four"]]
    rfl
  · rw [hlater []]
    rfl
  · exact ((hfails "c" (hnone "c") [] () ()).1).mpr (by rw [hnames]; decide)
  · exact fun hb => (hfails "b" (hnone "b") [] () ()).1.mp hb (by rw [hnames]; decide)

end Registry

end Tool

end CodeAtlas
