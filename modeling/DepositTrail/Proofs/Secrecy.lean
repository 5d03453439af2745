import DepositTrail.Config.Variables
import DepositTrail.Proofs.ScansAbreast

set_option autoImplicit false

/-! # What becomes of the key

The key of the customer reaches nothing but the last parameter of the requests
(`key_is_secret`). Variables that differ in the key alone give configurations that differ in the
key alone, or the same problem (`Config.ofVariables_withKey`), and no description shows the key.
Scans with such configurations go abreast if the explorer answers without regard to the key:
they end in the same way, and write and say the same.
-/

namespace DepositTrail

/-! ## Configurations -/

namespace Config

variable {source source' : Variables}

theorem name_ne_apiKey {s : Setting} (hs : s ≠ .apiKey) : s.name ≠ Setting.apiKey.name := by
  cases s <;> first | exact absurd rfl hs | decide

/-- The variables of two sources have the same values, that of the key apart. -/
def AgreeButKey (source source' : Variables) : Prop :=
  ∀ name, name ≠ Setting.apiKey.name → source' name = source name

theorem AgreeButKey.given? (h : AgreeButKey source source') {s : Setting} (hs : s ≠ .apiKey) :
    Config.given? source' s = Config.given? source s := by
  unfold Config.given?
  rw [h _ (name_ne_apiKey hs)]

theorem AgreeButKey.settingOr (h : AgreeButKey source source') {α : Type} {s : Setting}
    (hs : s ≠ .apiKey) (read : Text → Except SettingProblem α) (default : α) :
    Config.settingOr source' s read default = Config.settingOr source s read default := by
  unfold Config.settingOr
  rw [h.given? hs]

/-- Checking a configuration does not look at the key. -/
theorem check_withKey (c : Config) (key : Text) :
    (c.withKey key).check = c.check.map (Config.withKey · key) := by
  have hsame : (c.withKey key).problem? = c.problem? := rfl
  unfold check
  rw [hsame]
  cases c.problem? <;> rfl

theorem map_bind {α : Type} {x : Except ConfigProblem α} {f : Config → Config}
    {g g' : α → Except ConfigProblem Config} (h : ∀ a, g' a = (g a).map f) :
    (x >>= g') = (x >>= g).map f := by
  cases x with
  | error problem => rfl
  | ok a => exact h a

/-- **Variables that differ in the key** give configurations that differ in the key, or the same
problem. -/
theorem ofVariables_withKey (h : AgreeButKey source source') {key key' : Text}
    (hkey : Config.given? source .apiKey = some key)
    (hkey' : Config.given? source' .apiKey = some key') :
    ofVariables source' = (ofVariables source).map (Config.withKey · key') := by
  unfold ofVariables
  rw [hkey, hkey']
  simp only [h.settingOr, h.given?, ne_eq, reduceCtorEq, not_false_eq_true]
  iterate 11 refine map_bind fun _ => ?_
  rw [← check_withKey]
  rfl

end Config

/-! ## Requests -/

/-- The request of the customer with another key. -/
def PageRequest.withKey (r : PageRequest) (key : Text) : PageRequest := { r with apiKey := ⟨key⟩ }

/-- The exchange that would have been made with another key. -/
def Exchange.withKey (x : Exchange) (key : Text) : Exchange :=
  { x with request := x.request.withKey key }

/-- An explorer that answers without regard to the key. -/
def Explorer.KeyBlind {σ : Type} (explorer : Explorer σ) : Prop :=
  ∀ s (r : PageRequest) key, explorer s (r.withKey key) = explorer s r

/-- A script is followed whatever the key is. -/
theorem Script.explorer_keyBlind : Script.explorer.KeyBlind := fun _ _ _ => rfl

/-- The target of a request up to the value of its last parameter, which is the key. -/
def Endpoint.front (e : Endpoint) (r : PageRequest) : Text :=
  e.path ++ '?' :: ((if e.query = [] then [] else e.query ++ ['&']) ++
    form (parameters r).dropLast ++ "&apikey=".toList)

/-- **The key comes last** in a target, and nowhere else. -/
theorem Endpoint.target_eq (e : Endpoint) (r : PageRequest) :
    e.target r = e.front r ++ formText r.apiKey.reveal := by
  have hname : formText "apikey".toList = "apikey".toList := by decide
  simp [target, front, queryOf, form, parameters, formPair, List.intercalate]
  exact congrArg (· ++ '=' :: formText r.apiKey.reveal) hname

/-- What stands before the key is the name of its parameter. -/
theorem Endpoint.suffix_front (e : Endpoint) (r : PageRequest) :
    "&apikey=".toList <:+ e.front r := by
  refine ⟨e.path ++ '?' :: ((if e.query = [] then [] else e.query ++ ['&']) ++
    form (parameters r).dropLast), ?_⟩
  rw [front, List.append_assoc, List.cons_append]

/-- A question with another key is answered in the same way. -/
theorem Client.ask_withKey {σ : Type} {explorer : Explorer σ} (hblind : explorer.KeyBlind)
    (client : Client) (r : PageRequest) (key : Text) (s : σ) :
    client.ask explorer (r.withKey key) s = client.ask explorer r s := by
  have hsend : client.send explorer (r.withKey key) = client.send explorer r := by
    funext s
    unfold send
    cases client.endpoint with
    | none => rfl
    | some e => exact hblind s r key
  rw [ask, hsend]
  rfl

theorem Course.exchanges_withKey {σ : Type} (c : Course σ) (r : PageRequest) (key : Text) :
    c.exchanges (r.withKey key) = (c.exchanges r).map (Exchange.withKey · key) := by
  simp [exchanges, Exchange.withKey]

/-! ## Scans -/

/-- What the journal shows of an entry. -/
def Entry.shown (e : Entry) : Level × String := (e.level, e.text)

theorem shown_retryEntries (attempts : Nat) (r : PageRequest) (key : Text) (i : Nat)
    (fs : List (Failure × Duration)) :
    (retryEntries attempts (r.withKey key) i fs).map Entry.shown
      = (retryEntries attempts r i fs).map Entry.shown := by
  induction fs generalizing i with
  | nil => rfl
  | cons f fs ih =>
      rw [retryEntries, retryEntries, List.map_cons, List.map_cons, ih]
      rfl

/-- The trails of two scans that differ in the key alone. -/
structure SameButKey {σ : Type} (c : Config) (key : Text) (t t' : Trail σ) : Prop where
  explorer : t'.explorer = t.explorer
  exchanges : t'.exchanges = t.exchanges.map (Exchange.withKey · key)
  keyed : ∀ x ∈ t.exchanges, x.request.apiKey = c.apiKey
  journal : t'.journal.map Entry.shown = t.journal.map Entry.shown

section Scans

variable {σ : Type} {c : Config} {key : Text} {t t' : Trail σ}

theorem SameButKey.say (h : SameButKey c key t t') (e : Entry) :
    SameButKey c key (t.say e) (t'.say e) where
  explorer := h.explorer
  exchanges := h.exchanges
  keyed := h.keyed
  journal := by
    show (t'.journal ++ [e]).map Entry.shown = (t.journal ++ [e]).map Entry.shown
    rw [List.map_append, List.map_append, h.journal]

theorem SameButKey.after (h : SameButKey c key t t') (attempts : Nat) {r : PageRequest}
    (hr : r.apiKey = c.apiKey) (course : Course σ) :
    SameButKey c key (t.after attempts r course) (t'.after attempts (r.withKey key) course) where
  explorer := rfl
  exchanges := by
    show t'.exchanges ++ course.exchanges (r.withKey key)
      = (t.exchanges ++ course.exchanges r).map _
    rw [List.map_append, h.exchanges, Course.exchanges_withKey]
  keyed := by
    intro x hx
    rcases List.mem_append.mp hx with hx | hx
    · exact h.keyed x hx
    · rw [request_of_mem_exchanges hx, hr]
  journal := by
    show (t'.journal ++ retryEntries attempts (r.withKey key) 1 course.retried).map Entry.shown
      = (t.journal ++ retryEntries attempts r 1 course.retried).map Entry.shown
    rw [List.map_append, List.map_append, h.journal, shown_retryEntries]

/-- Scans whose configurations differ in the key go abreast. -/
theorem abreast_withKey {explorer : Explorer σ} (hblind : explorer.KeyBlind) (c : Config)
    (key : Text) :
    Abreast c key explorer explorer (fun _ => True) (SameButKey (σ := σ) c key) where
  shorter := fun _ _ => trivial
  say := fun h e _ => h.say e
  ask := by
    intro t t' h w page client r r' course course' _
    have hr' : r' = r.withKey key := rfl
    have hcourse : course' = course := by
      show client.ask explorer r' t'.explorer = client.ask explorer r t.explorer
      rw [hr', h.explorer, Client.ask_withKey hblind]
    rw [hcourse, hr']
    exact ⟨h.after _ rfl course, rfl⟩

/-- The targets of two scans that differ in the key alone. -/
theorem SameButKey.targets (h : SameButKey c key t t') :
    ∃ fronts : List Text,
      (Client.ofConfig c).targets t.exchanges
          = fronts.map (· ++ Endpoint.formText c.apiKey.reveal) ∧
        (Client.ofConfig (c.withKey key)).targets t'.exchanges
          = fronts.map (· ++ Endpoint.formText key) ∧
        ∀ front ∈ fronts, "&apikey=".toList <:+ front := by
  have hclient : Client.ofConfig (c.withKey key) = Client.ofConfig c := rfl
  rw [hclient]
  cases he : (Client.ofConfig c).endpoint with
  | none =>
      have hnil : ∀ xs, (Client.ofConfig c).targets xs = [] := by
        intro xs
        simp [Client.targets, Client.target?, he]
      exact ⟨[], hnil _, hnil _, List.forall_mem_nil _⟩
  | some e =>
      refine ⟨(t.exchanges.filter fun x => x.attempt.arrived).map fun x => e.front x.request,
        ?_, ?_, ?_⟩
      · rw [Client.targets_eq he, List.map_map]
        apply List.map_congr_left
        intro x hx
        show e.target x.request = e.front x.request ++ _
        rw [Endpoint.target_eq, h.keyed x (List.mem_of_mem_filter hx)]
      · rw [Client.targets_eq he, h.exchanges, List.filter_map, List.map_map, List.map_map]
        apply List.map_congr_left
        intro x _
        exact Endpoint.target_eq e (x.request.withKey key)
      · intro front hfront
        obtain ⟨x, -, rfl⟩ := List.mem_map.mp hfront
        exact e.suffix_front x.request

end Scans

/-- **The key is a secret.** Of two sources of variables with keys that differ in the key alone,
the second gives what the first gives, up to the key: the same problem, or a configuration with
the other key, and the description and the entry about it are the same.

And two scans whose configurations differ in the key alone, with an explorer that answers
without regard to the key, end in the same way, with the same counts, the same bytes in the sink
and the same store, and their journals show the same. Each target of the second is that of the
first with the other key after the last `apikey=`. -/
theorem key_is_secret {σ : Type} (explorer : Explorer σ) (hblind : explorer.KeyBlind) (s : σ)
    (sink : Sink) (store : Option Checkpoint.Store) :
    (∀ (source source' : Config.Variables) (key key' : Text),
      Config.AgreeButKey source source' → Config.given? source .apiKey = some key →
        Config.given? source' .apiKey = some key' →
          Config.ofVariables source' = (Config.ofVariables source).map (Config.withKey · key') ∧
            (Config.ofVariables source').map Config.describe
              = (Config.ofVariables source).map Config.describe ∧
            (Config.ofVariables source').map (Entry.shown ∘ Entry.loaded)
              = (Config.ofVariables source).map (Entry.shown ∘ Entry.loaded)) ∧
      ∀ (c : Config) (key : Text),
        let r := scan c explorer (Progress.start s sink store)
        let r' := scan (c.withKey key) explorer (Progress.start s sink store)
        r'.2 = r.2 ∧ r'.1.report = r.1.report ∧ r'.1.sink = r.1.sink ∧
          r'.1.store = r.1.store ∧
          r'.1.journal.map Entry.shown = r.1.journal.map Entry.shown ∧
          ∃ fronts : List Text,
            r.1.targets c = fronts.map (· ++ Endpoint.formText c.apiKey.reveal) ∧
              r'.1.targets (c.withKey key) = fronts.map (· ++ Endpoint.formText key) ∧
              ∀ front ∈ fronts, "&apikey=".toList <:+ front := by
  constructor
  · intro source source' key key' hagree hkey hkey'
    have hsame := Config.ofVariables_withKey hagree hkey hkey'
    refine ⟨hsame, ?_, ?_⟩
    · rw [hsame]
      cases Config.ofVariables source <;> rfl
    · rw [hsame]
      cases Config.ofVariables source <;> rfl
  · intro c key r r'
    have hstart : Along (SameButKey c key) (Progress.start s sink store)
        (Progress.start s sink store) := ⟨⟨rfl, rfl, nofun, rfl⟩, rfl, rfl, rfl⟩
    obtain ⟨halong, hresult⟩ := (abreast_withKey hblind c key).scan hstart trivial
    have hagree : SameButKey c key r.1.trail r'.1.trail := halong.trail
    exact ⟨hresult, halong.report, halong.sink, halong.store, hagree.journal, hagree.targets⟩

/-- Two keys, and a script in which the connection is dropped once and there are no logs. -/
theorem key_is_secret_two_keys :
    let script : Script := ⟨[⟨200, none, [], false, true⟩], .noRecords⟩
    let sourceOf (key : String) : Config.Variables := fun name =>
      if name = Setting.apiKey.name then some key.toList
      else if name = Setting.toBlock.name then some "29030000".toList else none
    let c : Config := { Config.default "red".toList with toBlock := 29030000 }
    let r := scan c Script.explorer (Progress.start script Sink.unlimited none)
    let r' := scan (c.withKey "blue".toList) Script.explorer
      (Progress.start script Sink.unlimited none)
    Script.explorer.KeyBlind ∧ Config.AgreeButKey (sourceOf "red") (sourceOf "blue") ∧
      Config.given? (sourceOf "red") .apiKey = some "red".toList ∧
      Config.given? (sourceOf "blue") .apiKey = some "blue".toList ∧
      Config.ofVariables (sourceOf "blue")
        = (Config.ofVariables (sourceOf "red")).map (Config.withKey · "blue".toList) ∧
      r'.2 = r.2 ∧ r'.1.journal.map Entry.shown = r.1.journal.map Entry.shown ∧
      ∃ fronts : List Text,
        r.1.targets c = fronts.map (· ++ Endpoint.formText "red".toList) ∧
          r'.1.targets (c.withKey "blue".toList)
            = fronts.map (· ++ Endpoint.formText "blue".toList) ∧
          ∀ front ∈ fronts, "&apikey=".toList <:+ front := by
  intro script sourceOf c r r'
  have hagree : Config.AgreeButKey (sourceOf "red") (sourceOf "blue") := by
    intro name hname
    simp only [sourceOf, if_neg hname]
  have hred : Config.given? (sourceOf "red") .apiKey = some "red".toList := by decide
  have hblue : Config.given? (sourceOf "blue") .apiKey = some "blue".toList := by decide
  obtain ⟨hvariables, hscan⟩ :=
    key_is_secret Script.explorer Script.explorer_keyBlind script Sink.unlimited none
  obtain ⟨hresult, -, -, -, hjournal, htargets⟩ := hscan c "blue".toList
  exact ⟨Script.explorer_keyBlind, hagree, hred, hblue,
    (hvariables _ _ _ _ hagree hred hblue).1, hresult, hjournal, htargets⟩

end DepositTrail
