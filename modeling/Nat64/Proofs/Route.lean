import Mathlib.Data.Set.Insert
import Mathlib.Order.BooleanAlgebra.Set
import Nat64.Route

/-!
# Routes that are taken back

A command that keeps a set of routes adds those that are absent, and says of the others that they exist. Both count as
added, so what is withdrawn after a refusal, or at the end of the work, are all routes up to the refusal, whoever added
them. The routes are what they were before if none of those was there already, and only then; the routes that were there
and were asked for are gone.

* `Route.KeepsSet`: what is expected of the command.
* `KeepsSet.add`, `KeepsSet.remove`: one call, and `KeepsSet.addEach`, `KeepsSet.withdraw`: all of them.
* `Route.install_withdrawn`: which routes there are in the end, for every list of routes and every pattern of refusals.
* `Route.Kept`: such a command, with a list of routes; it shows what is lost (`Route.install_removes_existing`).
-/

namespace Nat64

/-! ## Ends of the command, and what they mean -/

namespace CommandEnd

/-- It did what it was asked for. -/
def Succeeds : CommandEnd → Prop
  | .unavailable _ => False
  | .exited status _ => status = 0

/-- It failed because the route is there. -/
def ReportsExisting : CommandEnd → Prop
  | .unavailable _ => False
  | .exited status complaint => status ≠ 0 ∧ Route.saysExists complaint = true

/-- It failed for another reason. -/
def Refuses : CommandEnd → Prop
  | .unavailable _ => True
  | .exited status complaint => status ≠ 0 ∧ Route.saysExists complaint = false

end CommandEnd

namespace Route

variable {σ κ : Type} {run : RouteCommand σ} {device : String} {key : Route → κ} {installed : σ → Set κ}

section Verdict

variable {route : Route} {ended : CommandEnd}

theorem verdict_of_succeeds (h : ended.Succeeds) : route.verdict ended = .ok () := by
  cases ended with
  | unavailable why => cases h
  | exited status complaint => exact if_pos (Or.inl h)

theorem verdict_of_reportsExisting (h : ended.ReportsExisting) : route.verdict ended = .ok () := by
  cases ended with
  | unavailable why => cases h
  | exited status complaint => exact if_pos (Or.inr h.2)

theorem verdict_of_refuses (h : ended.Refuses) : ∃ f, route.verdict ended = .error f := by
  cases ended with
  | unavailable why => exact ⟨_, rfl⟩
  | exited status complaint =>
    obtain ⟨hstatus, hother⟩ := h
    refine ⟨_, if_neg fun hor => ?_⟩
    rcases hor with hzero | hexists
    · exact hstatus hzero
    · rw [hother] at hexists
      cases hexists

end Verdict

section Course

variable {route : Route} {s next : σ} {f : Fault}

theorem addEach_of_ok (h : add run device route s = (.ok (), next)) (routes : List Route) :
    addEach run device (route :: routes) s =
      (route :: (addEach run device routes next).1, (addEach run device routes next).2) := by
  rw [addEach, h]

theorem addEach_of_error (h : add run device route s = (.error f, next)) (routes : List Route) :
    addEach run device (route :: routes) s = ([], some f, next) := by
  rw [addEach, h]

end Course

/-! ## The command -/

/-- A command keeps a set of routes, which it tells apart by some key: a route that is absent is added, or refused
for a reason of its own; one that is present is reported as existing; and one that is deleted is absent
afterwards. Nothing else changes. -/
structure KeepsSet (run : RouteCommand σ) (device : String) (key : Route → κ) (installed : σ → Set κ) : Prop where
  add_absent : ∀ (route : Route) (s : σ), key route ∉ installed s →
    let r := run (route.linuxArguments "add" device) s
    r.1.Succeeds ∧ installed r.2 = insert (key route) (installed s) ∨ r.1.Refuses ∧ installed r.2 = installed s
  add_present : ∀ (route : Route) (s : σ), key route ∈ installed s →
    let r := run (route.linuxArguments "add" device) s
    r.1.ReportsExisting ∧ installed r.2 = installed s
  delete : ∀ (route : Route) (s : σ),
    installed (run (route.linuxArguments "del" device) s).2 = installed s \ {key route}

/-- What some routes are told apart by. -/
def keys (key : Route → κ) (routes : List Route) : Set κ := {k | ∃ route ∈ routes, key route = k}

theorem keys_nil (key : Route → κ) : keys key [] = ∅ := by
  ext k
  simp [keys]

theorem keys_cons (key : Route → κ) (route : Route) (routes : List Route) :
    keys key (route :: routes) = insert (key route) (keys key routes) := by
  ext k
  simp [keys, eq_comm]

theorem keys_reverse (key : Route → κ) (routes : List Route) : keys key routes.reverse = keys key routes := by
  ext k
  simp [keys]

/-- Taking routes out of a set leaves the set as it is if none of them is in it. -/
theorem diff_keys_eq_iff {T : Set κ} {routes : List Route} :
    T \ keys key routes = T ↔ ∀ route ∈ routes, key route ∉ T := by
  rw [sdiff_eq_left, Set.disjoint_right]
  constructor
  · intro h route hroute
    exact h ⟨route, hroute, rfl⟩
  · rintro h _ ⟨route, hroute, rfl⟩
    exact h route hroute

namespace KeepsSet

variable (h : KeepsSet run device key installed)
include h

/-! ## One call -/

/-- A route that counts as added is there, whether or not it was before; one that is refused was not, and is not. -/
theorem add (route : Route) (s : σ) :
    (Route.add run device route s).1 = .ok () ∧
        installed (Route.add run device route s).2 = insert (key route) (installed s) ∨
      ∃ f, (Route.add run device route s).1 = .error f ∧ key route ∉ installed s ∧
        installed (Route.add run device route s).2 = installed s := by
  show route.verdict (run _ s).1 = .ok () ∧ installed (run _ s).2 = _ ∨
    ∃ f, route.verdict (run _ s).1 = .error f ∧ _ ∧ installed (run _ s).2 = _
  by_cases hthere : key route ∈ installed s
  · obtain ⟨hended, hsame⟩ := h.add_present route s hthere
    left
    exact ⟨verdict_of_reportsExisting hended, by rw [hsame, Set.insert_eq_of_mem hthere]⟩
  · rcases h.add_absent route s hthere with ⟨hended, hinserted⟩ | ⟨hended, hsame⟩
    · left
      exact ⟨verdict_of_succeeds hended, hinserted⟩
    · right
      obtain ⟨f, hf⟩ : ∃ f, route.verdict _ = .error f := verdict_of_refuses hended
      exact ⟨f, hf, hthere, hsame⟩

theorem remove (route : Route) (s : σ) : installed (Route.remove run device s route) = installed s \ {key route} :=
  h.delete route s

/-! ## All calls -/

/-- The routes that count as added are there when it ends, besides those that were there before. They are all, or those
before one that is absent. -/
theorem addEach (routes : List Route) (s : σ) :
    installed (Route.addEach run device routes s).2.2 = installed s ∪ keys key (Route.addEach run device routes s).1 ∧
      ((Route.addEach run device routes s).2.1 = none ∧ (Route.addEach run device routes s).1 = routes ∨
        ∃ f refused rest, (Route.addEach run device routes s).2.1 = some f ∧
          routes = (Route.addEach run device routes s).1 ++ refused :: rest ∧ key refused ∉ installed s) := by
  induction routes generalizing s with
  | nil =>
    refine ⟨?_, Or.inl ⟨rfl, rfl⟩⟩
    show installed s = installed s ∪ keys key []
    rw [keys_nil, Set.union_empty]
  | cons route routes ih =>
    have hcase := h.add route s
    rcases hadd : Route.add run device route s with ⟨verdict, next⟩
    rw [hadd] at hcase
    dsimp only at hcase
    rcases hcase with ⟨rfl, hinserted⟩ | ⟨f, rfl, habsent, hsame⟩
    · obtain ⟨hinstalled, hcourse⟩ := ih next
      rw [addEach_of_ok hadd]
      refine ⟨?_, ?_⟩
      · rw [hinstalled, hinserted, keys_cons, Set.insert_union, Set.union_insert]
      · rcases hcourse with ⟨hnone, hall⟩ | ⟨f, refused, rest, hsome, hsplit, habsent⟩
        · exact Or.inl ⟨hnone, by rw [hall]⟩
        · refine Or.inr ⟨f, refused, rest, hsome, by rw [List.cons_append, ← hsplit], fun hin => habsent ?_⟩
          rw [hinserted]
          exact Set.mem_insert_of_mem _ hin
    · rw [addEach_of_error hadd]
      refine ⟨?_, Or.inr ⟨f, route, routes, rfl, rfl, habsent⟩⟩
      rw [keys_nil, Set.union_empty]
      exact hsame

theorem foldl_remove (routes : List Route) (s : σ) :
    installed (routes.foldl (Route.remove run device) s) = installed s \ keys key routes := by
  induction routes generalizing s with
  | nil => rw [keys_nil, Set.sdiff_empty, List.foldl_nil]
  | cons route routes ih => rw [List.foldl_cons, ih, h.remove, Set.sdiff_sdiff, keys_cons, Set.singleton_union]

theorem withdraw (routes : List Route) (s : σ) :
    installed (Route.withdraw run device routes s) = installed s \ keys key routes := by
  rw [Route.withdraw, h.foldl_remove, keys_reverse]

end KeepsSet

/-! ## From the first route to the last removal -/

/-- After a refusal, the routes before the refused one are gone, and no other; without one, all routes are there until
they are withdrawn, and then they are gone, and no other. Either way, the routes are those of before if and only if none
of the withdrawn ones was there before. -/
theorem install_withdrawn (h : KeepsSet run device key installed) (routes : List Route) (s : σ) :
    (∀ f s', install run device routes s = (.error f, s') →
      ∃ added refused rest, (Route.addEach run device routes s).1 = added ∧ routes = added ++ refused :: rest ∧
        key refused ∉ installed s ∧
        installed s' = installed s \ keys key added ∧
        (installed s' = installed s ↔ ∀ route ∈ added, key route ∉ installed s)) ∧
    (∀ guarded s', install run device routes s = (.ok guarded, s') →
      guarded = routes ∧
        installed s' = installed s ∪ keys key routes ∧
        installed (Route.withdraw run device guarded s') = installed s \ keys key routes ∧
        (installed (Route.withdraw run device guarded s') = installed s ↔
          ∀ route ∈ routes, key route ∉ installed s)) := by
  obtain ⟨hinstalled, hcourse⟩ := h.addEach routes s
  rcases hrun : Route.addEach run device routes s with ⟨added, refusal, reached⟩
  rw [hrun] at hinstalled hcourse
  simp only at hinstalled hcourse
  -- all that counts as added is taken out, also what was there before
  have hback : installed (Route.withdraw run device added reached) = installed s \ keys key added := by
    rw [h.withdraw, hinstalled, Set.union_sdiff_right]
  unfold install
  rw [hrun]
  rcases hcourse with ⟨rfl, rfl⟩ | ⟨f, refused, rest, rfl, hsplit, habsent⟩
  · refine ⟨fun f s' herror => (by cases herror), fun guarded s' hok => ?_⟩
    cases hok
    exact ⟨rfl, hinstalled, hback, by rw [hback]; exact diff_keys_eq_iff⟩
  · refine ⟨fun f' s' herror => ?_, fun guarded s' hok => (by cases hok)⟩
    cases herror
    exact ⟨added, refused, rest, rfl, hsplit, habsent, hback, by rw [hback]; exact diff_keys_eq_iff⟩

/-! ## A command -/

/-- What a command remembers of routes: which are there, and which of the next additions are not permitted. -/
structure Kept where
  texts : List String
  refusals : List Bool := []
deriving DecidableEq

namespace Kept

/-- A route is added unless it is there or the addition is not permitted. -/
def add (text : String) (s : Kept) : CommandEnd × Kept :=
  if text ∈ s.texts then (.exited 2 "RTNETLINK answers: File exists", s)
  else if s.refusals.head? = some true then
    (.exited 2 "RTNETLINK answers: Operation not permitted", { s with refusals := s.refusals.tail })
  else (.exited 0 "", { texts := text :: s.texts, refusals := s.refusals.tail })

/-- A route is deleted if it is there. -/
def delete (text : String) (s : Kept) : CommandEnd × Kept :=
  if text ∈ s.texts then (.exited 0 "", { s with texts := s.texts.filter (· ≠ text) })
  else (.exited 2 "RTNETLINK answers: No such process", s)

/-- The command: it knows routes by what they lead to. -/
def keep : RouteCommand Kept := fun arguments s =>
  match arguments.reverse with
  | _ :: _ :: text :: verb :: _ =>
    if verb = "add" then s.add text else if verb = "del" then s.delete text else (.exited 255 "", s)
  | _ => (.exited 255 "", s)

/-- The routes that are there. -/
def there (s : Kept) : Set String := {text | text ∈ s.texts}

instance (text : String) (s : Kept) : Decidable (text ∈ s.there) := inferInstanceAs (Decidable (text ∈ s.texts))

theorem keep_add (route : Route) (s : Kept) : keep (route.linuxArguments "add" device) s = s.add (toString route) := by
  cases route <;> rfl

theorem keep_delete (route : Route) (s : Kept) :
    keep (route.linuxArguments "del" device) s = s.delete (toString route) := by
  cases route <;> rfl

theorem keepsSet (device : String) : KeepsSet keep device toString there where
  add_absent route s habsent := by
    change toString route ∉ s.texts at habsent
    rw [keep_add, add, if_neg habsent]
    split
    · exact Or.inr ⟨⟨by decide, by decide⟩, rfl⟩
    · refine Or.inl ⟨rfl, ?_⟩
      ext text
      simp [there]
  add_present route s hpresent := by
    change toString route ∈ s.texts at hpresent
    rw [keep_add, add, if_pos hpresent]
    exact ⟨⟨by decide, by decide⟩, rfl⟩
  delete route s := by
    rw [keep_delete, delete]
    ext text
    split
    · simp [there]
    · rename_i habsent
      constructor
      · intro hthere
        exact ⟨hthere, fun heq => habsent (heq ▸ hthere)⟩
      · exact And.left

end Kept

/-- Routes to two networks. -/
def sampleRoutes : List Route :=
  [.pool ⟨IPv4.ofNat 0xc0000200, 24, by decide⟩, .pool ⟨IPv4.ofNat 0xc6336400, 24, by decide⟩]

/-- The routes are those of before when neither was there: after the second one is refused,
and after both are withdrawn. -/
theorem install_withdrawn_samples :
    let granted : Kept := { texts := ["203.0.113.0/24"] }
    let refused : Kept := { texts := ["203.0.113.0/24"], refusals := [false, true] }
    KeepsSet Kept.keep "nat64" toString Kept.there ∧
      (∃ f s', install Kept.keep "nat64" sampleRoutes refused = (.error f, s') ∧ s'.there = refused.there) ∧
      ∃ s', install Kept.keep "nat64" sampleRoutes granted = (.ok sampleRoutes, s') ∧
        (Route.withdraw Kept.keep "nat64" sampleRoutes s').there = granted.there := by
  intro granted refused
  have hkeeps := Kept.keepsSet "nat64"
  refine ⟨hkeeps, ?_, ?_⟩
  · obtain ⟨herror, -⟩ := install_withdrawn hkeeps sampleRoutes refused
    obtain ⟨added, -, -, hadded, -, -, -, hsame⟩ := herror _ _ rfl
    refine ⟨_, _, rfl, hsame.mpr ?_⟩
    rw [← hadded]
    decide
  · obtain ⟨-, hok⟩ := install_withdrawn hkeeps sampleRoutes granted
    obtain ⟨-, -, -, hsame⟩ := hok _ _ rfl
    exact ⟨_, rfl, hsame.mpr (by decide)⟩

/-- A route that was there before is not there afterwards: neither when another one is refused, nor after the work. -/
theorem install_removes_existing :
    let s : Kept := { texts := ["192.0.2.0/24"], refusals := [true] }
    KeepsSet Kept.keep "nat64" toString Kept.there ∧
      (∃ f, install Kept.keep "nat64" sampleRoutes s = (.error f, { texts := [] })) ∧
      ∃ guarded s', install Kept.keep "nat64" (sampleRoutes.take 1) s = (.ok guarded, s') ∧
        Route.withdraw Kept.keep "nat64" guarded s' = { s with texts := [] } := by
  exact ⟨Kept.keepsSet "nat64", ⟨_, rfl⟩, _, _, rfl, rfl⟩

end Route

end Nat64
