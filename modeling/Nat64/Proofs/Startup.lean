import Nat64.Program
import Nat64.Proofs.CommandLine
import Nat64.Proofs.Header
import Nat64.Proofs.Prefix

/-!
# Checking a configuration and starting with it

The two commands read, check and use a configuration, each in its own order. One expands the path once more than the
other and writes the configuration out; the other takes the prefix from it.

* `Path.expandHome_expandHome`: expanding a path again does not change it.
* `Config.toPrefix_of_valid`: what was checked has a prefix.
* `Program.Agree`: two outcomes that are alike; `Program.agree_of_loaded`: the two commands
  once a configuration is loaded.
* `Services`: the files, and the reader and the writer of configurations, whichever they are.
* `Services.agree`: with these, the commands fail alike and succeed alike.
* `Program.services_check`, `Program.services_start`: the program is one of these cases.
* `Program.commands_agree`: the two commands, from their arguments to their ends.
-/

namespace Nat64

/-! ## Paths -/

namespace Path

variable {home path : String}

theorem isAbsolute_iff : isAbsolute path = true ↔ path.toList.head? = some '/' := by
  rw [isAbsolute, beq_iff_eq]

theorem isAbsolute_append (h : isAbsolute home) (rest : String) : isAbsolute (home ++ rest) := by
  rw [isAbsolute_iff] at h ⊢
  rw [String.toList_append, List.head?_append, h]
  rfl

/-- What is seen from an absolute directory has an absolute path. -/
theorem isAbsolute_join (h : isAbsolute home) (path : String) : isAbsolute (join home path) := by
  unfold join
  split
  · assumption
  · split
    · exact isAbsolute_append h path
    · rw [String.append_assoc]
      exact isAbsolute_append h _

/-- An absolute path has no tilde in front. -/
theorem expandHome_of_isAbsolute (h : isAbsolute path) : expandHome home path = path := by
  rw [isAbsolute_iff] at h
  unfold expandHome
  split
  · rename_i hpath
    rw [hpath] at h
    exact absurd h (by decide)
  · rename_i hpath
    rw [hpath] at h
    exact absurd h (by simp)
  · rfl

theorem expandHome_eq_or_isAbsolute (h : isAbsolute home) (path : String) :
    expandHome home path = path ∨ isAbsolute (expandHome home path) := by
  unfold expandHome
  split
  · exact .inr h
  · exact .inr (isAbsolute_join h _)
  · exact .inl rfl

/-- Expanding a path again does not change it. -/
theorem expandHome_expandHome (h : isAbsolute home) (path : String) :
    expandHome home (expandHome home path) = expandHome home path := by
  rcases expandHome_eq_or_isAbsolute h path with heq | habsolute
  · rw [heq, heq]
  · exact expandHome_of_isAbsolute habsolute

end Path

/-! ## Configurations -/

namespace Config

variable {c : Config} {s : String} {n : Nat}

/-- A configuration that was checked has a prefix. -/
theorem toPrefix_of_valid (h : c.validate = .ok ()) : ∃ p, c.toPrefix = .ok p := by
  have hcheck : Prefix.checkLength c.embedding.length = .ok () := by
    simp only [validate, Except.guard_eq_ok, Except.bind_eq_ok] at h
    obtain ⟨-, -, u, hcheck, -⟩ := h
    exact hcheck
  have hlength : c.embedding.length = 96 := by
    unfold Prefix.checkLength at hcheck
    split at hcheck
    · assumption
    · cases hcheck
  exact ⟨Prefix.of c.embedding.address, Prefix.ofNetwork_eq hlength (Prefix.mem_iff_of.2 rfl)⟩

theorem lt_of_number? {limit : Nat} {value : Toml.Value} (h : number? limit value = some n) : n < limit := by
  unfold number? at h
  split at h
  · split at h <;> cases h
    assumption
  · cases h

theorem lt_of_field? {doc : Toml.Document} {key : String} {limit absent : Nat}
    (h : field? doc key (number? limit) absent = some n) (habsent : absent < limit) : n < limit := by
  unfold field? at h
  split at h
  · exact lt_of_number? h
  · cases h
    exact habsent

theorem expiry_lt (h : ofString? s = some c) : c.expiry < 0x8000000000000000 := by
  obtain ⟨doc, -, h⟩ := Option.bind_eq_some_iff.1 h
  simp only [ofDocument?] at h
  split at h
  · simp only [Option.bind_eq_bind, Option.bind_eq_some_iff] at h
    obtain ⟨_, -, _, -, _, -, _, -, _, -, expiry, hexpiry, _, -, h⟩ := h
    cases h
    exact lt_of_field? hexpiry (by decide)
  · cases h

/-- A configuration is in order, and these are its prefix and its leases. -/
structure Passes (c : Config) (p : Prefix) (t : LeaseTable) : Prop where
  valid : c.validate = .ok ()
  embedding : c.toPrefix = .ok p
  leases : c.buildTable = .ok t

end Config

namespace Program

/-! ## Two outcomes -/

/-- Checking a configuration and starting with it come out alike: the same failure, before there is anything to do with
sockets, or success both, the one with a text and the other with a gateway that is made from the configuration. -/
structure Agree (loaded : Except Fault Config) (checked : Except Failure (Option String))
    (started : Except Failure Gateway) : Prop where
  failure : ∀ f, checked = .error f ↔ started = .error f
  stage : ∀ f, started = .error f → f.stage = .load ∨ f.stage = .validate ∨ f.stage = .pool
  success : (∃ output, checked = .ok (some output)) ↔ ∃ c p t, loaded = .ok c ∧ c.Passes p t
  reached : ∀ g, started = .ok g ↔ ∃ c p t, loaded = .ok c ∧ c.Passes p t ∧ g = { embedding := p, leases := t }

section Agree

variable {loaded : Except Fault Config} {c : Config} {p : Prefix} {t : LeaseTable} {f : Failure}

theorem Agree.of_error (hstage : f.stage = .load ∨ f.stage = .validate ∨ f.stage = .pool)
    (hnone : ∀ c p t, loaded = .ok c → ¬ c.Passes p t) : Agree loaded (.error f) (.error f) where
  failure f' := by rw [Except.error.injEq, Except.error.injEq]
  stage f' hf := by
    cases hf
    exact hstage
  success := iff_of_false nofun fun ⟨c, p, t, hc, hpasses⟩ => hnone c p t hc hpasses
  reached g := iff_of_false nofun fun ⟨c, p, t, hc, hpasses, _⟩ => hnone c p t hc hpasses

theorem Agree.of_passes (hloaded : loaded = .ok c) (h : c.Passes p t) (output : String) :
    Agree loaded (.ok (some output)) (.ok { embedding := p, leases := t }) where
  failure f := iff_of_false nofun nofun
  stage f hf := nomatch hf
  success := iff_of_true ⟨output, rfl⟩ ⟨c, p, t, hloaded, h⟩
  reached g := by
    constructor
    · intro hg
      cases hg
      exact ⟨c, p, t, hloaded, h, rfl⟩
    · rintro ⟨c', p', t', hc, hpasses, rfl⟩
      cases hloaded.symm.trans hc
      cases h.embedding.symm.trans hpasses.embedding
      cases h.leases.symm.trans hpasses.leases
      rfl

end Agree

/-! ## After loading -/

/-- Checks a configuration and shows it, with the number of addresses to lease, if it can be written. -/
def examine (write : Config → Option String) (c : Config) : Except Failure (Option String) := do
  during .validate c.validate
  let t ← during .pool c.buildTable
  return (write c).map (· ++ s!"# {t.free.size} leasable address(es)\n")

section Steps

variable {write : Config → Option String} {c : Config} {p : Prefix} {t : LeaseTable} {f : Fault} {text : String}

theorem fail_of_invalid (h : c.validate = .error f) :
    examine write c = .error ⟨.validate, f⟩ ∧ prepare c = .error ⟨.validate, f⟩ := by
  constructor
  · rw [examine, h]
    rfl
  · rw [prepare, h]
    rfl

theorem fail_of_pool (hvalid : c.validate = .ok ()) (hp : c.toPrefix = .ok p) (h : c.buildTable = .error f) :
    examine write c = .error ⟨.pool, f⟩ ∧ prepare c = .error ⟨.pool, f⟩ := by
  constructor
  · rw [examine, hvalid, h]
    rfl
  · rw [prepare, hvalid, hp, h]
    rfl

theorem succeed_of_passes (h : c.Passes p t) (htext : write c = some text) :
    examine write c = .ok (some (text ++ s!"# {t.free.size} leasable address(es)\n"))
      ∧ prepare c = .ok { embedding := p, leases := t } := by
  constructor
  · rw [examine, h.valid, h.leases, htext]
    rfl
  · rw [prepare, h.valid, h.embedding, h.leases]
    rfl

/-- What is loaded is treated alike, however it was loaded. -/
theorem agree_of_loaded {loaded : Except Fault Config} (hwrite : ∀ c, loaded = .ok c → ∃ text, write c = some text) :
    Agree loaded (during .load loaded >>= examine write) (during .load loaded >>= prepare) := by
  cases loaded with
  | error f => exact .of_error (.inl rfl) fun c p t hc => nomatch hc
  | ok c =>
    show Agree (.ok c) (examine write c) (prepare c)
    cases hvalid : c.validate with
    | error f =>
      obtain ⟨hexamine, hprepare⟩ := fail_of_invalid hvalid
      rw [hexamine, hprepare]
      refine .of_error (.inr (.inl rfl)) fun c' p t hc hpasses => ?_
      cases hc
      exact nomatch hvalid.symm.trans hpasses.valid
    | ok u =>
      obtain ⟨p, hp⟩ := Config.toPrefix_of_valid hvalid
      cases htable : c.buildTable with
      | error f =>
        obtain ⟨hexamine, hprepare⟩ := fail_of_pool hvalid hp htable
        rw [hexamine, hprepare]
        refine .of_error (.inr (.inr rfl)) fun c' p t hc hpasses => ?_
        cases hc
        exact nomatch htable.symm.trans hpasses.leases
      | ok t =>
        obtain ⟨text, htext⟩ := hwrite c rfl
        have hpasses : c.Passes p t := ⟨hvalid, hp, htable⟩
        obtain ⟨hexamine, hprepare⟩ := succeed_of_passes hpasses htext
        rw [hexamine, hprepare]
        exact .of_passes rfl hpasses _

end Steps

end Program

/-! ## Any files, reader and writer -/

/-- The files, and the reader and the writer of configurations, that the two commands work with. -/
structure Services where
  home : String
  /-- The text at a path, or why there is none. -/
  text : String → Except (Option IoFailure) String
  /-- The configuration of a text, or why it is none. -/
  parse : String → Except (Option IoFailure) Config
  /-- The text of a configuration, if it can be written. -/
  write : Config → Option String

namespace Services

open Program

variable {x : Services} {path : String}

/-- What was read can be written. -/
def Writes (x : Services) : Prop := ∀ s c, x.parse s = .ok c → ∃ text, x.write c = some text

/-- The configuration in the file at a path. -/
def loadFrom (x : Services) (path : String) : Except Fault Config := do
  let s ← (x.text path).mapError (.config (.unreadable path) ·)
  (x.parse s).mapError (.config (.unparsable path) ·)

/-- Checks the configuration at a path and shows it; the path is expanded by the command and when the file is loaded. -/
def check (x : Services) (path : String) : Except Failure (Option String) :=
  during .load (x.loadFrom (Path.expandHome x.home (Path.expandHome x.home path))) >>= examine x.write

/-- Gets a gateway ready with the configuration at a path, which is expanded when the file is loaded. -/
def start (x : Services) (path : String) : Except Failure Gateway :=
  during .load (x.loadFrom (Path.expandHome x.home path)) >>= prepare

theorem mapError_eq_ok_iff {α ε ε' : Type} {r : Except ε α} {tell : ε → ε'} {a : α} :
    r.mapError tell = .ok a ↔ r = .ok a := by
  cases r with
  | error e => exact iff_of_false nofun nofun
  | ok b =>
    show (.ok b : Except ε' α) = .ok a ↔ _
    rw [Except.ok.injEq, Except.ok.injEq]

theorem loadFrom_eq_ok {c : Config} :
    x.loadFrom path = .ok c ↔ ∃ s, x.text path = .ok s ∧ x.parse s = .ok c := by
  simp only [loadFrom, Except.bind_eq_ok, mapError_eq_ok_iff]

/-- A configuration that was loaded can be written. -/
theorem Writes.of_loadFrom {c : Config} (h : x.Writes) (hload : x.loadFrom path = .ok c) :
    ∃ text, x.write c = some text := by
  obtain ⟨s, -, hparse⟩ := loadFrom_eq_ok.1 hload
  exact h s c hparse

/-- With any files and any reader, and a writer for what was read, the commands come out alike. -/
theorem agree (x : Services) (hhome : Path.isAbsolute x.home) (h : x.Writes) (path : String) :
    Agree (x.loadFrom (Path.expandHome x.home path)) (x.check path) (x.start path) := by
  unfold check start
  rw [Path.expandHome_expandHome hhome]
  exact agree_of_loaded fun c hload => h.of_loadFrom hload

end Services

/-! ## The program -/

/-- The text that was found, if any. -/
def Entry.contents : Entry → Except (Option IoFailure) String
  | .text s => .ok s
  | .unreadable | .absent => .error none

/-- The files that the program finds, and its reader and writer; a writer of numbers with a sign has no
text for expiries from 2^63 on. -/
def Environment.services (env : Environment) : Services where
  home := env.home
  text path := (env.entry path).contents
  parse s := (Config.ofString? s).elim (.error none) .ok
  write c := if c.expiry < 0x8000000000000000 then some c.render else none

namespace Program

open Invocation

variable {env : Environment} {path : String} {c : Config}

theorem services_parse_eq_ok {s : String} : env.services.parse s = .ok c ↔ Config.ofString? s = some c := by
  show (Config.ofString? s).elim (.error none) .ok = Except.ok c ↔ _
  cases Config.ofString? s with
  | none => exact iff_of_false nofun nofun
  | some c' => rw [Option.elim_some, Except.ok.injEq, Option.some.injEq]

theorem services_writes (env : Environment) : env.services.Writes := by
  intro s c hparse
  exact ⟨c.render, if_pos (Config.expiry_lt (services_parse_eq_ok.1 hparse))⟩

theorem services_loadFrom (env : Environment) (path : String) : env.services.loadFrom path = loadFrom env path := by
  have htext : env.services.text path = (env.entry path).contents := rfl
  have hparse : ∀ s, env.services.parse s = (Config.ofString? s).elim (.error none) .ok := fun _ => rfl
  simp only [Services.loadFrom, loadFrom, htext, hparse]
  cases env.entry path with
  | absent | unreadable => rfl
  | text s =>
    show Except.mapError (Fault.config (.unparsable path) ·)
      ((Config.ofString? s).elim (Except.error none) Except.ok) = _
    dsimp only
    cases Config.ofString? s with
    | none => rfl
    | some c => rfl

/-- What was loaded is written as it is shown. -/
theorem services_write (h : loadFrom env path = .ok c) : env.services.write c = some c.render := by
  rw [← services_loadFrom] at h
  obtain ⟨text, htext⟩ := (services_writes env).of_loadFrom h
  have hwrite : env.services.write c = if c.expiry < 0x8000000000000000 then some c.render else none := rfl
  rw [hwrite] at htext ⊢
  split at htext
  · rename_i hlt
    rw [if_pos hlt]
  · cases htext

theorem services_check (env : Environment) (path : String) : env.services.check path = (check env path).map some := by
  have hhome : env.services.home = env.home := rfl
  have hload : load env (some (Path.expandHome env.home path))
      = loadFrom env (Path.expandHome env.home (Path.expandHome env.home path)) := rfl
  rw [Services.check, services_loadFrom, hhome, check, hload]
  cases hloaded : loadFrom env (Path.expandHome env.home (Path.expandHome env.home path)) with
  | error f => rfl
  | ok c =>
    show examine env.services.write c = _
    rw [examine, services_write hloaded]
    show _ = (during .validate c.validate >>= fun _ => during .pool c.buildTable >>= _).map some
    cases c.validate with
    | error f => rfl
    | ok u =>
      cases c.buildTable with
      | error f => rfl
      | ok t => rfl

theorem services_start (env : Environment) (path : String) :
    env.services.start path = start env { config := some path } := by
  have hsame : ∀ c : Config, override c { config := some path } = c := by
    intro c
    simp [override]
  unfold Services.start start
  rw [services_loadFrom]
  simp only [hsame]
  rfl

/-- With any files, the two commands come out alike. -/
theorem agree (env : Environment) (hhome : Path.isAbsolute env.home) (path : String) :
    Agree (loadFrom env (Path.expandHome env.home path)) ((check env path).map some)
      (start env { config := some path }) := by
  rw [← services_loadFrom, ← services_check, ← services_start]
  exact env.services.agree hhome (services_writes env) path

/-- They end alike, but for what comes of success. -/
theorem answers_of_agree {loaded : Except Fault Config} {s : CommandLine.Settings}
    (h : Agree loaded ((check env path).map some) (start env s)) :
    ((answer env (.checkConfig path)).status = 0 ↔ answer env (.run s) = { status := 1, failure := some noSockets }) ∧
      ((answer env (.checkConfig path)).status ≠ 0 → answer env (.checkConfig path) = answer env (.run s)) := by
  cases hcheck : check env path with
  | error f =>
    have hstart : start env s = .error f := (h.failure f).1 (by rw [hcheck]; rfl)
    have hchecked : answer env (.checkConfig path) = { status := 1, failure := some f } := by rw [answer, hcheck]
    have hstarted : answer env (.run s) = { status := 1, failure := some f } := by rw [answer, hstart]
    rw [hchecked, hstarted]
    refine ⟨iff_of_false nofun fun hsockets => ?_, fun _ => rfl⟩
    have hf : f = noSockets := Option.some.inj (congrArg Report.failure hsockets)
    subst hf
    rcases h.stage _ hstart with hstage | hstage | hstage <;> cases hstage
  | ok output =>
    have hchecked : (answer env (.checkConfig path)).status = 0 := by rw [answer, hcheck]
    refine ⟨iff_of_true hchecked ?_, fun hne => absurd hchecked hne⟩
    cases hstart : start env s with
    | error f =>
      have hfail := (h.failure f).2 hstart
      rw [hcheck] at hfail
      cases hfail
    | ok g => rw [answer, hstart]

/-- Nothing but the file at the expanded path matters to the commands. -/
theorem commands_congr {home : String} {entry entry' : String → Entry} (hhome : Path.isAbsolute home)
    (h : entry' (Path.expandHome home path) = entry (Path.expandHome home path)) :
    check ⟨home, entry'⟩ path = check ⟨home, entry⟩ path
      ∧ start ⟨home, entry'⟩ { config := some path } = start ⟨home, entry⟩ { config := some path } := by
  have hload : loadFrom ⟨home, entry'⟩ (Path.expandHome home path)
      = loadFrom ⟨home, entry⟩ (Path.expandHome home path) := by
    simp only [loadFrom, h]
  have hexpanded := Path.expandHome_expandHome hhome path
  simp only [check, start, load, hexpanded, hload, true_and]

/-- The two commands agree. Expanding a path twice gives what expanding it once does. What passes the check has a
prefix. The arguments that name a file to `check-config` are those that name it to `run` and replace no value of the
configuration; then both look at one file, and `check-config` ends well exactly if `run` comes to the sockets; else they
end in the same way. With any files, the results of the two are alike and up to that file only. So are they with any
other reader of configurations and a writer for what it reads. -/
theorem commands_agree (home : String) (hhome : Path.isAbsolute home) (path : String) :
    let file := Path.expandHome home path
    Path.expandHome home file = file ∧
    (∀ c : Config, c.validate = .ok () → ∃ p, c.toPrefix = .ok p) ∧
    (∀ args,
      (ofArguments? ("check-config" :: args) = some (.checkConfig path) ↔
        ofArguments? ("run" :: args) = some (.run { config := some path })) ∧
      (ofArguments? ("check-config" :: args) = some (.checkConfig path) →
        path? home ("check-config" :: args) = some file ∧ path? home ("run" :: args) = some file ∧
        ∀ entry, let checked := report ⟨home, entry⟩ ("check-config" :: args)
          let started := report ⟨home, entry⟩ ("run" :: args)
          (checked.status = 0 ↔ started = { status := 1, failure := some noSockets }) ∧
          (checked.status ≠ 0 → checked = started))) ∧
    (∀ entry,
      Agree (loadFrom ⟨home, entry⟩ file) ((check ⟨home, entry⟩ path).map some)
        (start ⟨home, entry⟩ { config := some path }) ∧
      ∀ entry', entry' file = entry file →
        check ⟨home, entry'⟩ path = check ⟨home, entry⟩ path ∧
        start ⟨home, entry'⟩ { config := some path } = start ⟨home, entry⟩ { config := some path }) ∧
    ∀ x : Services, x.home = home → x.Writes → Agree (x.loadFrom file) (x.check path) (x.start path) := by
  intro file
  have hexpanded : Path.expandHome home file = file := Path.expandHome_expandHome hhome path
  have hagree (entry : String → Entry) : Agree (loadFrom ⟨home, entry⟩ file) ((check ⟨home, entry⟩ path).map some)
      (start ⟨home, entry⟩ { config := some path }) := agree ⟨home, entry⟩ hhome path
  refine ⟨hexpanded, fun c => Config.toPrefix_of_valid, fun args => ⟨checkConfig_iff_run args path, ?_⟩,
    fun entry => ⟨hagree entry, fun entry' => commands_congr hhome⟩, ?_⟩
  · intro hchecked
    have hstarted := (checkConfig_iff_run args path).1 hchecked
    refine ⟨?_, ?_, ?_⟩
    · rw [path?, hchecked]
      exact congrArg some hexpanded
    · rw [path?, hstarted]
      rfl
    · intro entry
      simp only [report, hchecked, hstarted]
      exact answers_of_agree (hagree entry)
  · rintro x rfl hwrites
    exact x.agree hhome hwrites path

/-- A file in a home directory, and nothing else. -/
def sampleEntry (text : String) (path : String) : Entry := if path = "/root/nat64.toml" then .text text else .absent

/-- Without entries, the file is accepted; a size of one byte is refused. -/
theorem commands_agree_sample :
    let accepting : Environment := ⟨"/root", sampleEntry ""⟩
    let refusing : Environment := ⟨"/root", sampleEntry "mtu = 1"⟩
    let refused : Report := { status := 1, failure := some ⟨.validate, .config (.smallMtu 1) none⟩ }
    ((report accepting ["check-config", "-c", "~/nat64.toml"]).status = 0 ∧
      report accepting ["run", "-c", "~/nat64.toml"] = { status := 1, failure := some noSockets }) ∧
    (report refusing ["check-config", "-c", "~/nat64.toml"] = refused ∧
      report refusing ["run", "-c", "~/nat64.toml"] = refused) ∧
    check ⟨"/root", fun _ => .text "mtu = 1"⟩ "~/nat64.toml" = check refusing "~/nat64.toml" ∧
    Agree (refusing.services.loadFrom "/root/nat64.toml") (refusing.services.check "~/nat64.toml")
      (refusing.services.start "~/nat64.toml") := by
  intro accepting refusing refused
  obtain ⟨-, -, hargs, hentries, hservices⟩ := commands_agree "/root" (by decide) "~/nat64.toml"
  obtain ⟨-, -, hreports⟩ := (hargs ["-c", "~/nat64.toml"]).2 (by decide)
  have haccepted : (report accepting ["check-config", "-c", "~/nat64.toml"]).status = 0 := by decide +kernel
  have hrefused : report refusing ["check-config", "-c", "~/nat64.toml"] = refused := by decide +kernel
  have hfails : (report refusing ["check-config", "-c", "~/nat64.toml"]).status ≠ 0 := by
    rw [hrefused]
    exact Nat.one_ne_zero
  obtain ⟨hreached, -⟩ := hreports (sampleEntry "")
  obtain ⟨-, hsame⟩ := hreports (sampleEntry "mtu = 1")
  refine ⟨⟨haccepted, hreached.1 haccepted⟩, ⟨hrefused, (hsame hfails).symm.trans hrefused⟩, ?_, ?_⟩
  · exact ((hentries (sampleEntry "mtu = 1")).2 (fun _ => .text "mtu = 1") (by decide)).1
  · exact hservices refusing.services rfl (services_writes refusing)

end Program

end Nat64
