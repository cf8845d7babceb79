import Nat64.Proofs.Route

/-!
# The calls that install routes

What the command says about an addition decides whether the next one is tried; what it says about a removal decides
nothing. So the calls follow from how the additions end: they are all additions, or those up to the first refused one
and then the removals of the routes before it, last one first.

* `Route.scripted`: a command whose calls end as it was laid down beforehand, and which remembers nothing but its calls.
* `addEach_append`, `withdraw_scripted`: the calls of additions that pass, and of removals.
* `addEach_congr`: how the additions end is all that matters for what comes of them.
* `Route.install_calls`: all calls, for every list of routes and every script.
-/

namespace Nat64

namespace CommandEnd

/-- The command did what it was asked for, or found that it was done. -/
def Passes (ended : CommandEnd) : Prop := ended.Succeeds ∨ ended.ReportsExisting

variable {ended : CommandEnd}

theorem Passes.verdict (h : ended.Passes) (route : Route) : route.verdict ended = .ok () := by
  rcases h with hsucceeds | hexists
  · exact Route.verdict_of_succeeds hsucceeds
  · exact Route.verdict_of_reportsExisting hexists

theorem refuses_of_not_passes (h : ¬ ended.Passes) : ended.Refuses := by
  obtain ⟨hfails, hother⟩ := not_or.1 h
  cases ended with
  | unavailable why => trivial
  | exited status complaint => exact ⟨hfails, Bool.eq_false_iff.2 fun hexists => hother ⟨hfails, hexists⟩⟩

end CommandEnd

namespace Route

/-! ## Scripts -/

/-- One call of the command, by its arguments. -/
abbrev Call := List String

/-- A command whose ends are laid down beforehand: how a call ends may depend on all calls up to it, itself the last. -/
def scripted (script : List Call → CommandEnd) : RouteCommand (List Call) := fun call calls =>
  (script (calls ++ [call]), calls ++ [call])

/-- The calls that add routes, in order. -/
def additions (device : String) (routes : List Route) : List Call := routes.map (linuxArguments "add" device)

/-- The calls that remove routes, last route first. -/
def removals (device : String) (routes : List Route) : List Call := routes.reverse.map (linuxArguments "del" device)

/-- How the addition of the route at a place ends, when `calls` and the additions before it are over. -/
def ended (script : List Call → CommandEnd) (device : String) (calls : List Call) (routes : List Route) (i : Nat) :
    CommandEnd :=
  script (calls ++ additions device (routes.take (i + 1)))

variable {script other : List Call → CommandEnd} {device : String} {route : Route} {routes front : List Route}
  {calls : List Call}

theorem additions_cons (route : Route) (routes : List Route) :
    additions device (route :: routes) = additions device [route] ++ additions device routes := rfl

theorem additions_append (front back : List Route) :
    additions device (front ++ back) = additions device front ++ additions device back := List.map_append

theorem ended_cons_zero :
    ended script device calls (route :: routes) 0 = script (calls ++ additions device [route]) := rfl

theorem ended_cons_succ (i : Nat) : ended script device calls (route :: routes) (i + 1) =
    ended script device (calls ++ additions device [route]) routes i := by
  rw [ended, List.take_succ_cons, additions_cons, ← List.append_assoc, ended]

/-- The routes behind a place do not matter for how the addition there ends. -/
theorem ended_take {i k : Nat} (h : i < k) :
    ended script device calls (routes.take k) i = ended script device calls routes i := by
  rw [ended, List.take_take, Nat.min_eq_left h, ended]

/-! ## One call -/

theorem add_scripted : add (scripted script) device route calls =
    (route.verdict (script (calls ++ additions device [route])), calls ++ additions device [route]) := rfl

theorem remove_scripted : remove (scripted script) device calls route = calls ++ removals device [route] := rfl

/-! ## All calls -/

/-- While additions pass, one follows the other. -/
theorem addEach_append (h : ∀ i < front.length, (ended script device calls front i).Passes) (back : List Route) :
    addEach (scripted script) device (front ++ back) calls =
      (front ++ (addEach (scripted script) device back (calls ++ additions device front)).1,
        (addEach (scripted script) device back (calls ++ additions device front)).2) := by
  induction front generalizing calls with
  | nil =>
    show _ = addEach (scripted script) device back (calls ++ [])
    rw [List.append_nil, List.nil_append]
  | cons route front ih =>
    have hadd : add (scripted script) device route calls = (.ok (), calls ++ additions device [route]) := by
      have hfirst := h 0 (Nat.zero_lt_succ _)
      rw [ended_cons_zero] at hfirst
      rw [add_scripted, hfirst.verdict]
    have hrest : ∀ i < front.length, (ended script device (calls ++ additions device [route]) front i).Passes := by
      intro i hi
      rw [← ended_cons_succ]
      exact h (i + 1) (Nat.succ_lt_succ hi)
    rw [List.cons_append, addEach_of_ok hadd, ih hrest, additions_cons, List.append_assoc]
    rfl

theorem foldl_remove_scripted : routes.foldl (remove (scripted script) device) calls =
    calls ++ routes.map (linuxArguments "del" device) := by
  induction routes generalizing calls with
  | nil => rw [List.foldl_nil, List.map_nil, List.append_nil]
  | cons route routes ih =>
    rw [List.foldl_cons, ih, remove_scripted, List.map_cons, List.append_assoc]
    rfl

/-- Removals follow each other, however they end. -/
theorem withdraw_scripted : withdraw (scripted script) device routes calls = calls ++ removals device routes :=
  foldl_remove_scripted

/-- Scripts under which the additions end alike lead to the same calls. -/
theorem addEach_congr
    (h : ∀ i < routes.length, ended other device calls routes i = ended script device calls routes i) :
    addEach (scripted other) device routes calls = addEach (scripted script) device routes calls := by
  induction routes generalizing calls with
  | nil => rfl
  | cons route routes ih =>
    have hfirst := h 0 (Nat.zero_lt_succ _)
    rw [ended_cons_zero, ended_cons_zero] at hfirst
    have hadd : add (scripted other) device route calls = add (scripted script) device route calls := by
      rw [add_scripted, hfirst, add_scripted]
    rcases hrun : add (scripted script) device route calls with ⟨f | ⟨⟩, next⟩
    · rw [addEach_of_error hrun, addEach_of_error (hadd.trans hrun)]
    · have hnext : next = calls ++ additions device [route] := (congrArg Prod.snd hrun).symm
      have hrest : addEach (scripted other) device routes next = addEach (scripted script) device routes next := by
        refine ih fun i hi => ?_
        rw [hnext, ← ended_cons_succ, ← ended_cons_succ]
        exact h (i + 1) (Nat.succ_lt_succ hi)
      rw [addEach_of_ok hrun, addEach_of_ok (hadd.trans hrun), hrest]

section Install

variable {σ : Type} {run : RouteCommand σ} {added : List Route} {f : Fault} {s s' : σ}

theorem install_of_added (h : addEach run device routes s = (added, none, s')) :
    install run device routes s = (.ok added, s') := by
  rw [install, h]

theorem install_of_refused (h : addEach run device routes s = (added, some f, s')) :
    install run device routes s = (.error f, withdraw run device added s') := by
  rw [install, h]

end Install

/-! ## From the first addition to the last removal -/

theorem install_of_passes (h : ∀ i < routes.length, (ended script device calls routes i).Passes) :
    install (scripted script) device routes calls = (.ok routes, calls ++ additions device routes) := by
  have hadded := addEach_append h []
  rw [List.append_nil] at hadded
  rw [install_of_added hadded]
  exact congrArg (fun added => (Except.ok added, _)) (List.append_nil routes)

theorem install_of_not_passes {k : Nat} (hk : k < routes.length)
    (hpassed : ∀ i < k, (ended script device calls routes i).Passes)
    (hrefused : ¬ (ended script device calls routes k).Passes) :
    ∃ f, routes[k].verdict (ended script device calls routes k) = .error f ∧
      install (scripted script) device routes calls =
        (.error f, calls ++ additions device (routes.take (k + 1)) ++ removals device (routes.take k)) := by
  obtain ⟨f, hf⟩ : ∃ f, routes[k].verdict (ended script device calls routes k) = .error f :=
    verdict_of_refuses (CommandEnd.refuses_of_not_passes hrefused)
  have htake : routes.take (k + 1) = routes.take k ++ [routes[k]] := List.take_succ_eq_append_getElem hk
  have hcalls : calls ++ additions device (routes.take k) ++ additions device [routes[k]] =
      calls ++ additions device (routes.take (k + 1)) := by
    rw [htake, additions_append, List.append_assoc]
  have hadd : add (scripted script) device routes[k] (calls ++ additions device (routes.take k)) =
      (.error f, calls ++ additions device (routes.take (k + 1))) := by
    rw [add_scripted, hcalls]
    exact congrArg (·, _) hf
  have hfront : ∀ i < (routes.take k).length, (ended script device calls (routes.take k) i).Passes := by
    intro i hi
    have hik : i < k := by
      rw [List.length_take] at hi
      exact (Nat.lt_min.1 hi).1
    rw [ended_take hik]
    exact hpassed i hik
  have heach := addEach_append hfront (routes[k] :: routes.drop (k + 1))
  rw [addEach_of_error hadd, List.getElem_cons_drop, List.take_append_drop, List.append_nil] at heach
  refine ⟨f, hf, ?_⟩
  rw [install_of_refused heach, withdraw_scripted]

/-- All calls, and what comes of them. If the addition of some route neither succeeds nor finds the route
there, and those before it do, the calls are the additions up to it and the removals of the routes before it,
last one first. If there is no such route, they are all additions, and later all removals, last one first. How
removals end makes no difference. -/
theorem install_calls (script : List Call → CommandEnd) (device : String) (calls : List Call) (routes : List Route) :
    (∀ k (hk : k < routes.length), (∀ i < k, (ended script device calls routes i).Passes) →
      ¬ (ended script device calls routes k).Passes →
      ∃ f, routes[k].verdict (ended script device calls routes k) = .error f ∧
        install (scripted script) device routes calls =
          (.error f, calls ++ additions device (routes.take (k + 1)) ++ removals device (routes.take k))) ∧
    ((∀ i < routes.length, (ended script device calls routes i).Passes) →
      install (scripted script) device routes calls = (.ok routes, calls ++ additions device routes) ∧
        ∀ later, withdraw (scripted script) device routes later = later ++ removals device routes) ∧
    ∀ other, (∀ i < routes.length, ended other device calls routes i = ended script device calls routes i) →
      install (scripted other) device routes calls = install (scripted script) device routes calls ∧
        ∀ guarded later,
          withdraw (scripted other) device guarded later = withdraw (scripted script) device guarded later := by
  refine ⟨fun k hk hpassed hrefused => install_of_not_passes hk hpassed hrefused,
    fun hpassed => ⟨install_of_passes hpassed, fun later => withdraw_scripted⟩,
    fun other hsame => ⟨?_, fun guarded later => ?_⟩⟩
  · rcases hrun : addEach (scripted script) device routes calls with ⟨added, refusal | f, reached⟩
    · rw [install_of_added hrun, install_of_added ((addEach_congr hsame).trans hrun)]
    · rw [install_of_refused hrun, install_of_refused ((addEach_congr hsame).trans hrun), withdraw_scripted,
        withdraw_scripted]
  · rw [withdraw_scripted, withdraw_scripted]

/-- A script under which only the first call passes. -/
def grantsOne : List Call → CommandEnd := fun calls =>
  if calls.length = 1 then .exited 0 "" else .exited 2 "RTNETLINK answers: Operation not permitted"

/-- A script under which every route is there. -/
def findsAll : List Call → CommandEnd := fun _ => .exited 2 "RTNETLINK answers: File exists"

/-- Of two routes, the second is refused, and so is the removal of the first; or both are found, and removed in the end.
It is the same when the removal succeeds. -/
theorem install_calls_samples :
    let first : Call := ["route", "add", "192.0.2.0/24", "dev", "nat64"]
    let second : Call := ["route", "add", "198.51.100.0/24", "dev", "nat64"]
    let firstBack : Call := ["route", "del", "192.0.2.0/24", "dev", "nat64"]
    let secondBack : Call := ["route", "del", "198.51.100.0/24", "dev", "nat64"]
    let lenient : List Call → CommandEnd := fun calls => if calls.length = 3 then .exited 0 "" else grantsOne calls
    (∃ f, sampleRoutes[1].verdict (.exited 2 "RTNETLINK answers: Operation not permitted") = .error f ∧
      install (scripted grantsOne) "nat64" sampleRoutes [] = (.error f, [first, second, firstBack])) ∧
    install (scripted findsAll) "nat64" sampleRoutes [] = (.ok sampleRoutes, [first, second]) ∧
    withdraw (scripted findsAll) "nat64" sampleRoutes [first, second] = [first, second, secondBack, firstBack] ∧
    install (scripted lenient) "nat64" sampleRoutes [] = install (scripted grantsOne) "nat64" sampleRoutes [] := by
  intro first second firstBack secondBack lenient
  have hfound : ∀ i < sampleRoutes.length, (ended findsAll "nat64" [] sampleRoutes i).Passes := fun _ _ =>
    Or.inr ⟨by decide, by decide⟩
  obtain ⟨hadded, hremoved⟩ := (install_calls findsAll "nat64" [] sampleRoutes).2.1 hfound
  refine ⟨?_, hadded, hremoved _, ?_⟩
  · refine (install_calls grantsOne "nat64" [] sampleRoutes).1 1 (by decide) (fun i hi => ?_) ?_
    · rw [Nat.lt_one_iff.1 hi]
      exact Or.inl rfl
    · rintro (hzero | hexists)
      · cases hzero
      · cases hexists.2
  · refine ((install_calls grantsOne "nat64" [] sampleRoutes).2.2 lenient fun i hi => ?_).1
    have hcases : i = 0 ∨ i = 1 := by
      have hlength : sampleRoutes.length = 2 := rfl
      omega
    rcases hcases with rfl | rfl
    · rfl
    · rfl

end Route

end Nat64
