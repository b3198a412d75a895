import TypedClients.Output.Files
import TypedClients.Proofs.Sequencing
import TypedClients.ProjectSettings

/-!
# What a failed run leaves

A run puts its modules into a sink one after the other, and each is checked only when its turn
comes. What is there when one of them fails are the modules before it, so that a run that fails
leaves nothing exactly where it fails before anything has passed its check.
-/
namespace TypedClients

open TypedClients.Text TypedClients.Code

/-! ### Sinks -/

namespace Sink

variable {σ : Type} {sink : Sink σ} {state : σ} {m : OutputModule}

theorem putAll_cons_error (ms : List OutputModule) {e : Failure}
    (h : (sink.put state m).1.result = .error e) :
    (sink.putAll state (m :: ms)).1.result = .error e ∧
      (sink.putAll state (m :: ms)).2 = (sink.put state m).2 := by
  simp [putAll, h]

theorem putAll_cons_ok (ms : List OutputModule) {out : String}
    (h : (sink.put state m).1.result = .ok out) :
    (sink.putAll state (m :: ms)).1.result =
        (sink.putAll (sink.put state m).2 ms).1.result.map (out :: ·) ∧
      (sink.putAll state (m :: ms)).2 = (sink.putAll (sink.put state m).2 ms).2 := by
  simp [putAll, h]

/-- A run that succeeds begins with a put that does. -/
theorem putAll_cons_eq_ok {ms : List OutputModule} {outs : List String}
    (h : (sink.putAll state (m :: ms)).1.result = .ok outs) :
    ∃ out outs', (sink.put state m).1.result = .ok out ∧
      (sink.putAll (sink.put state m).2 ms).1.result = .ok outs' ∧
      (sink.putAll state (m :: ms)).2 = (sink.putAll (sink.put state m).2 ms).2 := by
  cases hput : (sink.put state m).1.result with
  | error e =>
      rw [(putAll_cons_error ms hput).1] at h
      cases h
  | ok out =>
      obtain ⟨hresult, hstate⟩ := putAll_cons_ok ms hput
      rw [hresult, map_eq_ok_iff] at h
      obtain ⟨outs', hlater, -⟩ := h
      exact ⟨out, outs', rfl, hlater, hstate⟩

/-- What every put adds to, a run of puts adds to. -/
theorem putAll_related {R : σ → σ → Prop} (hrefl : ∀ a, R a a)
    (htrans : ∀ {a b c}, R a b → R b c → R a c) (hput : ∀ state m, R state (sink.put state m).2)
    (state : σ) (ms : List OutputModule) : R state (sink.putAll state ms).2 := by
  induction ms generalizing state with
  | nil => exact hrefl state
  | cons m ms ih =>
      have hfirst : R state (sink.put state m).2 := hput state m
      cases h : (sink.put state m).1.result with
      | error e =>
          rw [(putAll_cons_error ms h).2]
          exact hfirst
      | ok out =>
          rw [(putAll_cons_ok ms h).2]
          exact htrans hfirst (ih _)

/-- A run fails at the first module whose put fails, and leaves what that put leaves. -/
theorem putAll_eq_error {ms : List OutputModule} {e : Failure}
    (h : (sink.putAll state ms).1.result = .error e) :
    ∃ done m rest outs, ms = done ++ m :: rest ∧
      (sink.putAll state done).1.result = .ok outs ∧
      (sink.put (sink.putAll state done).2 m).1.result = .error e ∧
      (sink.putAll state ms).2 = (sink.put (sink.putAll state done).2 m).2 := by
  induction ms generalizing state with
  | nil => cases h
  | cons m ms ih =>
      cases hput : (sink.put state m).1.result with
      | error f =>
          obtain ⟨hresult, hstate⟩ := putAll_cons_error ms hput
          rw [hresult] at h
          cases h
          exact ⟨[], m, ms, [], rfl, rfl, hput, hstate⟩
      | ok out =>
          obtain ⟨hresult, hstate⟩ := putAll_cons_ok ms hput
          rw [hresult, map_eq_error_iff] at h
          obtain ⟨done, m', rest, outs, hms, hdone, hfail, hafter⟩ := ih h
          obtain ⟨hresult', hstate'⟩ := putAll_cons_ok done hput
          refine ⟨m :: done, m', rest, out :: outs, by rw [hms]; rfl, ?_, ?_, ?_⟩
          · rw [hresult', hdone]
            rfl
          · rw [hstate']
            exact hfail
          · rw [hstate, hstate']
            exact hafter

/-- A put succeeds for modules only that pass their check. -/
def Checks (sink : Sink σ) : Prop :=
  ∀ state m out, (sink.put state m).1.result = .ok out → m.text.isOk = true

theorem isOk_of_putAll (hsink : sink.Checks) {ms : List OutputModule} {outs : List String}
    (h : (sink.putAll state ms).1.result = .ok outs) : ∀ m ∈ ms, m.text.isOk = true := by
  induction ms generalizing state outs with
  | nil => simp
  | cons m ms ih =>
      obtain ⟨out, outs', hput, hlater, -⟩ := putAll_cons_eq_ok h
      rw [List.forall_mem_cons]
      exact ⟨hsink state m out hput, ih hlater⟩

end Sink

section

variable {state : Collected} {m : OutputModule} {ms : List OutputModule}

theorem put_collecting_of_ok (state : Collected) {text : String} (h : m.text = .ok text) :
    (collecting.put state m).1.result = .ok text ∧
      (collecting.put state m).2 = state.insert m.path text := by
  simp [collecting, h]

theorem put_collecting_of_error (state : Collected) {e : Failure}
    (h : m.text = .error e) :
    (collecting.put state m).1.result = .error e ∧ (collecting.put state m).2 = state := by
  simp [collecting, h]

theorem checks_collecting : collecting.Checks := by
  intro state m out h
  cases htext : m.text with
  | ok text => rfl
  | error e =>
      rw [(put_collecting_of_error _ htext).1] at h
      cases h

/-- The keys are those of before, and new ones after them. -/
theorem keys_prefix_putAll (state : Collected) (ms : List OutputModule) :
    state.keys <+: (collecting.putAll state ms).2.keys := by
  refine Sink.putAll_related (R := fun a b : Collected => a.keys <+: b.keys)
    (fun a => List.prefix_rfl) List.IsPrefix.trans ?_ state ms
  intro state m
  cases htext : m.text with
  | error e =>
      simpa only [(put_collecting_of_error state htext).2] using List.prefix_rfl
  | ok text =>
      rw [(put_collecting_of_ok _ htext).2, Dictionary.keys_insert]
      split
      · exact List.prefix_rfl
      · exact List.prefix_append _ _

theorem keys_putAll_eq_iff {outs : List String}
    (h : (collecting.putAll state ms).1.result = .ok outs) :
    (collecting.putAll state ms).2.keys = state.keys ↔ ∀ m ∈ ms, m.path ∈ state.keys := by
  induction ms generalizing state outs with
  | nil => simp [Sink.putAll]
  | cons m ms ih =>
      obtain ⟨out, outs', hput, hlater, hstate⟩ := Sink.putAll_cons_eq_ok h
      rw [hstate, List.forall_mem_cons]
      cases htext : m.text with
      | error e =>
          rw [(put_collecting_of_error _ htext).1] at hput
          cases hput
      | ok text =>
          rw [(put_collecting_of_ok _ htext).2] at hlater ⊢
          have hkeys := Dictionary.keys_insert state m.path text
          by_cases hpath : m.path ∈ state.keys
          · rw [if_pos hpath] at hkeys
            rw [← hkeys, ih hlater, hkeys]
            exact ⟨fun hall => ⟨hpath, hall⟩, And.right⟩
          · -- A new key stays, so that the keys are more than before.
            rw [if_neg hpath] at hkeys
            constructor
            · intro hsame
              have hlength := (keys_prefix_putAll (state.insert m.path text) ms).length_le
              rw [hsame, hkeys, List.length_append, List.length_singleton] at hlength
              omega
            · exact fun hall => absurd hall.1 hpath

end

section

variable {output : Path} {state : FileOutput} {m : OutputModule} {ms : List OutputModule}

theorem put_writing_of_error {e : Failure} (h : m.text = .error e) :
    (writing output).put state m = (Traced.fail e, state) := by
  simp [writing, h]

theorem writeText_error {t t' : FileTree} {file : Path} {text : String} {e : Failure}
    (h : writeText t file text = (.error e, t')) :
    ∃ path cause, e = .reported (.output path cause) := by
  unfold writeText at h
  split at h
  · cases h
    exact ⟨_, _, rfl⟩
  · split at h <;> cases h
    exact ⟨_, _, rfl⟩

/-- A put writes one more file, or fails and writes none. -/
theorem written_put (output : Path) (state : FileOutput) (m : OutputModule) :
    (∃ out file, ((writing output).put state m).1.result = .ok out ∧ m.text.isOk = true ∧
      ((writing output).put state m).2.written = state.written ++ [file]) ∨
    (∃ e, ((writing output).put state m).1.result = .error e ∧
      ((writing output).put state m).2.written = state.written ∧
      ((∃ path cause, e = .reported (.output path cause)) ∨
        m.text = .error e ∧ ((writing output).put state m).2 = state)) := by
  cases htext : m.text with
  | error e =>
      rw [put_writing_of_error htext]
      exact .inr ⟨e, rfl, rfl, .inr ⟨rfl, rfl⟩⟩
  | ok text =>
      simp only [writing, htext]
      split
      · rename_i e tree hwrite
        exact .inr ⟨e, rfl, rfl, .inl (writeText_error hwrite)⟩
      · exact .inl ⟨_, _, rfl, rfl, rfl⟩

theorem checks_writing (output : Path) : (writing output).Checks := by
  intro state m out h
  rcases written_put output state m with ⟨_, _, -, hok, -⟩ | ⟨e, he, -⟩
  · exact hok
  · rw [he] at h
    cases h

theorem written_prefix_putAll (output : Path) (state : FileOutput) (ms : List OutputModule) :
    state.written <+: ((writing output).putAll state ms).2.written := by
  refine Sink.putAll_related (R := fun a b : FileOutput => a.written <+: b.written)
    (fun a => List.prefix_rfl) List.IsPrefix.trans ?_ state ms
  intro state m
  rcases written_put output state m with ⟨_, file, -, -, hwritten⟩ | ⟨_, -, hwritten, -⟩
  · rw [hwritten]
    exact List.prefix_append _ _
  · simpa only [hwritten] using List.prefix_rfl

theorem putAll_writing_eq_iff {outs : List String}
    (h : ((writing output).putAll state ms).1.result = .ok outs) :
    ((writing output).putAll state ms).2.written = state.written ↔ ms = [] := by
  cases ms with
  | nil => simp [Sink.putAll]
  | cons m ms =>
      obtain ⟨out, outs', hput, -, hstate⟩ := Sink.putAll_cons_eq_ok h
      rw [hstate]
      rcases written_put output state m with ⟨_, file, -, -, hwritten⟩ | ⟨e, hfail, -⟩
      · have hlength := (written_prefix_putAll output ((writing output).put state m).2 ms).length_le
        rw [hwritten, List.length_append, List.length_singleton] at hlength
        constructor
        · intro hsame
          rw [hsame] at hlength
          omega
        · intro hnil
          cases hnil
      · rw [hfail] at hput
        cases hput

end

/-! ### Runs -/

namespace ProjectSettings

variable {σ : Type} {sink : Sink σ} {state : σ} {s : ProjectSettings}
  {project : Traced SourceProject} {e : Failure}

/-- What a run has to put out before the first module that fails its check. -/
def checked (s : ProjectSettings) (project : Traced SourceProject) : List OutputModule :=
  match (project >>= s.clientModules).result with
  | .ok modules => (s.outputModules modules).takeWhile (·.text.isOk)
  | .error _ => []

theorem generate_of_error (h : (project >>= s.clientModules).result = .error e) :
    (s.generate sink state project).2 = state := by
  simp only [generate, h]

/-- A run fails before it puts anything out, or at the first module whose put fails. -/
theorem generate_eq_error (h : (s.generate sink state project).1.result = .error e) :
    ((project >>= s.clientModules).result = .error e) ∨
    ∃ modules done m rest outs, (project >>= s.clientModules).result = .ok modules ∧
      s.outputModules modules = done ++ m :: rest ∧
      (sink.putAll state done).1.result = .ok outs ∧
      (sink.put (sink.putAll state done).2 m).1.result = .error e ∧
      (s.generate sink state project).2 = (sink.put (sink.putAll state done).2 m).2 := by
  cases hmade : (project >>= s.clientModules).result with
  | error f =>
      simp only [generate, hmade] at h
      cases h
      exact .inl rfl
  | ok modules =>
      cases modules with
      | nil =>
          simp only [generate, hmade, Traced.bind_result] at h
          cases h
      | cons first modules =>
          simp only [generate, hmade] at h ⊢
          obtain ⟨done, m, rest, outs, hall, hdone, hfail, hafter⟩ := Sink.putAll_eq_error h
          exact .inr ⟨_, done, m, rest, outs, rfl, hall, hdone, hfail, hafter⟩

theorem checked_eq {modules : List ClientModule} {done rest : List OutputModule}
    {m : OutputModule} (h : (project >>= s.clientModules).result = .ok modules)
    (hall : s.outputModules modules = done ++ m :: rest)
    (hdone : ∀ m ∈ done, m.text.isOk = true) (hfail : m.text = .error e) :
    s.checked project = done := by
  rw [checked, h]
  simp only [hall]
  have hm : ¬ m.text.isOk = true := by
    rw [hfail]
    exact Bool.false_ne_true
  rw [List.takeWhile_append_of_pos hdone, List.takeWhile_cons_of_neg (by simpa using hm),
    List.append_nil]

/-- A run that fails leaves what is put out as it was exactly where it fails before some module
passes its check that was not there already. A run that does not get as far as making all client
modules is one of these. -/
theorem generate_unchanged_iff (s : ProjectSettings) (project : Traced SourceProject)
    (e : Failure) :
    (∀ (σ : Type) (sink : Sink σ) (state : σ),
      (project >>= s.clientModules).result = .error e →
        (s.generate sink state project).1.result = .error e ∧
          (s.generate sink state project).2 = state) ∧
    (∀ state : Collected, (s.generate collecting state project).1.result = .error e →
      ((s.generate collecting state project).2.keys = state.keys ↔
        ∀ m ∈ s.checked project, m.path ∈ state.keys)) ∧
    ∀ (output : Path) (state : FileOutput),
      (s.generate (writing output) state project).1.result = .error e →
      (∀ path cause, e ≠ .reported (.output path cause)) →
        ((s.generate (writing output) state project).2 = state ↔ s.checked project = []) := by
  refine ⟨?_, ?_, ?_⟩
  · intro σ sink state h
    refine ⟨?_, generate_of_error h⟩
    simp only [generate, h]
  · intro state h
    rcases generate_eq_error h with
      hmade | ⟨modules, done, m, rest, outs, hmade, hall, hdone, hput, hafter⟩
    · rw [generate_of_error hmade, checked, hmade]
      simp
    · have hok := Sink.isOk_of_putAll checks_collecting hdone
      cases htext : m.text with
      | ok text =>
          rw [(put_collecting_of_ok _ htext).1] at hput
          cases hput
      | error f =>
          rw [hafter, (put_collecting_of_error _ htext).2, checked_eq hmade hall hok htext]
          exact keys_putAll_eq_iff hdone
  · intro output state h he
    rcases generate_eq_error h with
      hmade | ⟨modules, done, m, rest, outs, hmade, hall, hdone, hput, hafter⟩
    · rw [generate_of_error hmade, checked, hmade]
      simp
    · have hok := Sink.isOk_of_putAll (checks_writing output) hdone
      rcases written_put output ((writing output).putAll state done).2 m with
        ⟨_, _, hput', -⟩ | ⟨f, hput', -, ⟨path, cause, hf⟩ | ⟨htext, hkept⟩⟩
      · rw [hput'] at hput
        cases hput
      · rw [hput'] at hput
        cases hput
        exact absurd hf (he path cause)
      · rw [hafter, hkept, checked_eq hmade hall hok htext]
        constructor
        · intro hsame
          exact (putAll_writing_eq_iff hdone).mp (by rw [hsame])
        · intro hnil
          rw [hnil]
          rfl

/-- A project with one controller. -/
def shelfProject : SourceProject :=
  ⟨[{ name := ⟨"shelf_controller", false⟩
      path := "shelf_controller.py"
      body := [.classDef [.name "Controller"] "ShelfController" [] [] [.pass]] }]⟩

/-- Settings that give client modules names which no package can import from. -/
def shelfSettings : ProjectSettings :=
  { source := "app", output := "clients", clientEnding := "-client", runtimeModule := ".runtime" }

theorem statements_shelf : shelfSettings.clients.runtimeImports.statements =
    [.importFrom (some "runtime") [{ name := "RequestOptions" }, { name := "request" }] 1] := by
  have hrefs : shelfSettings.clients.runtimeImports.refs =
      [{ module := ".runtime", name := some "request" },
        { module := ".runtime", name := some "RequestOptions" }] := by decide
  have hplain : shelfSettings.clients.runtimeImports.plainModules = [] := by
    rw [Imports.plainModules, hrefs]
    exact List.mergeSort_nil
  have hsources : shelfSettings.clients.runtimeImports.sourceModules = [".runtime"] := by
    rw [Imports.sourceModules, hrefs]
    exact List.mergeSort_singleton _
  have hnames : shelfSettings.clients.runtimeImports.namesFrom ".runtime" =
      [("RequestOptions", none), ("request", none)] := by
    rw [Imports.namesFrom, hrefs]
    simp [List.mergeSort, List.MergeSort.Internal.splitInTwo, List.merge]
    decide
  have hkind : ModuleKind.ofModule ".runtime" = .relative := by decide
  simp [Imports.statements, Imports.statementsOf, hplain, hsources, hkind, hnames]
  rfl

/-- The client module of the project. -/
def shelfModule : ClientModule :=
  { apiName := "api"
    moduleName := "shelf-client"
    body := shelfSettings.clients.runtimeImports.statements ++
      [Client.offers ["ShelfClient"], Client.classOf "ShelfClient" []]
    exports := ["ShelfClient"] }

theorem clientModules_shelf :
    (shelfSettings.clientModules shelfProject).result = .ok [shelfModule] := by rfl

theorem outputModules_shelf : shelfSettings.outputModules [shelfModule] =
    [shelfModule.output, packageModule "api" [shelfModule]] := by
  have hnames : ["api"].eraseDups.mergeSort (· ≤ ·) = ["api"] := List.mergeSort_singleton "api"
  have hgroups : packageGroups [shelfModule] = [("api", [shelfModule])] := by
    simp [packageGroups, shelfModule, hnames]
  simp [outputModules, packageModules, hgroups, shelfSettings]

/-- The client module passes its check, the package module that follows it does not. -/
theorem texts_shelf : (∃ text, shelfModule.output.text = .ok text) ∧
    ∃ e, (packageModule "api" [shelfModule]).text = .error e := by
  have hclient : shelfModule.output.text.isOk = true := by
    rw [ClientModule.output, shelfModule, statements_shelf]
    decide +kernel
  have hpackage : (packageModule "api" [shelfModule]).text.isOk = false := by decide +kernel
  constructor
  · cases h : shelfModule.output.text with
    | ok text => exact ⟨text, rfl⟩
    | error e => rw [h] at hclient; cases hclient
  · cases h : (packageModule "api" [shelfModule]).text with
    | ok text => rw [h] at hpackage; cases hpackage
    | error e => exact ⟨e, rfl⟩

/-- The run over the project fails after it has put out a client. -/
theorem exists_generate_shelf : ∃ e text,
    (shelfSettings.generate collecting [] (pure shelfProject)).1.result = .error e ∧
      (shelfSettings.generate collecting [] (pure shelfProject)).2 =
        [("api/shelf-client.py", text)] := by
  obtain ⟨⟨text, htext⟩, e, he⟩ := texts_shelf
  have hmade : (pure shelfProject >>= shelfSettings.clientModules).result = .ok [shelfModule] := by
    rw [pure_bind, clientModules_shelf]
  have hpath : shelfModule.output.path = "api/shelf-client.py" := by decide
  obtain ⟨hclient, hkept⟩ := put_collecting_of_ok [] htext
  obtain ⟨hpackage, hstate⟩ := put_collecting_of_error [("api/shelf-client.py", text)] he
  obtain ⟨hfirst, hafter⟩ := Sink.putAll_cons_ok [packageModule "api" [shelfModule]] hclient
  obtain ⟨hlast, hlater⟩ := Sink.putAll_cons_error [] hpackage
  rw [hkept, hpath, Dictionary.insert] at hfirst hafter
  rw [hlast] at hfirst
  rw [hlater, hstate] at hafter
  refine ⟨e, text, ?_, ?_⟩
  · simp only [generate, hmade, outputModules_shelf, hfirst]
    rfl
  · simp only [generate, hmade, outputModules_shelf, hafter]

/-- Nothing keeps a run that fails from leaving something. -/
theorem not_unchanged_of_generate :
    ¬ ∀ (s : ProjectSettings) (p : SourceProject) (state : Collected) (e : Failure),
      (s.generate collecting state (pure p)).1.result = .error e →
        (s.generate collecting state (pure p)).2 = state := by
  intro hunchanged
  obtain ⟨e, text, hfail, hafter⟩ := exists_generate_shelf
  rw [hunchanged shelfSettings shelfProject [] e hfail] at hafter
  cases hafter

theorem checked_shelf : shelfSettings.checked (pure shelfProject) = [shelfModule.output] := by
  obtain ⟨⟨text, htext⟩, e, he⟩ := texts_shelf
  have hmade : (pure shelfProject >>= shelfSettings.clientModules).result = .ok [shelfModule] := by
    rw [pure_bind, clientModules_shelf]
  refine checked_eq hmade outputModules_shelf ?_ he
  intro m hm
  rw [List.mem_singleton.mp hm, htext]
  rfl

theorem generate_unchanged_iff_shelf : ∃ e,
    (shelfSettings.generate collecting [] (pure shelfProject)).1.result = .error e ∧
      (shelfSettings.generate collecting [] (pure shelfProject)).2.keys ≠ [] := by
  obtain ⟨e, text, hfail, -⟩ := exists_generate_shelf
  refine ⟨e, hfail, fun hkeys => ?_⟩
  have hthere := ((generate_unchanged_iff shelfSettings (pure shelfProject) e).2.1 [] hfail).mp hkeys
  rw [checked_shelf] at hthere
  exact absurd (hthere _ List.mem_cons_self) List.not_mem_nil

end ProjectSettings

end TypedClients
