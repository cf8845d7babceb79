import Nat64.CommandLine.Invocation

/-!
# The arguments of the two commands

The options of `check-config` are the first of those of `run`. So what is understood after the one command is understood
after the other, and means the same, unless there is an option that replaces a value of the configuration.

* `Flag.ofArgument?_eq`, `Flag.ofArgument?_append`: an argument names the first option that fits it, so
  others behind it do not matter.
* `items?_congr`, `flag_mem_of_items?`: options are read from a list of arguments one by one.
* `Settings.Plain`, `Settings.plain_foldlM`: no value of the configuration is replaced.
* `Invocation.checkConfig_iff_run`: what the two commands are asked for.
-/

namespace Nat64

namespace CommandLine

section Options

variable {flags flags' more : List Flag} {flag : Flag} {value : Option String} {arg : String} {args : List String}
  {items : List Item} {s t : Settings}

namespace Flag

/-- An argument names the first option that fits it, and takes its value as that option alone says. -/
theorem ofArgument?_eq (arg : String) :
    ∃ (fits : Flag → Bool) (taken : Flag → Option (Flag × Option String)),
      (∀ flag given, taken flag = some given → given.1 = flag) ∧
        ∀ flags, ofArgument? flags arg = (flags.find? fits).bind taken := by
  unfold ofArgument?
  split
  · refine ⟨_, _, fun flag given h => ?_, fun _ => rfl⟩
    split at h
    · split at h <;> cases h
      rfl
    · cases h
      rfl
  · refine ⟨_, _, fun flag given h => ?_, fun _ => rfl⟩
    split at h <;> cases h <;> rfl
  · exact ⟨fun _ => false, fun _ => none, (fun _ _ h => nomatch h), fun flags => (Option.bind_fun_none _).symm⟩

theorem mem_of_ofArgument? (h : ofArgument? flags arg = some (flag, value)) : flag ∈ flags := by
  obtain ⟨fits, taken, htaken, heq⟩ := ofArgument?_eq arg
  rw [heq] at h
  obtain ⟨first, hfirst, h⟩ := Option.bind_eq_some_iff.1 h
  rw [← htaken first _ h] at hfirst
  exact List.mem_of_find?_eq_some hfirst

/-- Options that come after one do not keep an argument from naming it. -/
theorem ofArgument?_append (h : flag ∉ more) :
    ofArgument? (flags ++ more) arg = some (flag, value) ↔ ofArgument? flags arg = some (flag, value) := by
  obtain ⟨fits, taken, htaken, heq⟩ := ofArgument?_eq arg
  rw [heq, heq, List.find?_append]
  cases flags.find? fits with
  | some first => exact Iff.rfl
  | none =>
    refine ⟨fun hmore => ?_, fun hnone => nomatch hnone⟩
    obtain ⟨first, hfirst, hmore⟩ := Option.bind_eq_some_iff.1 hmore
    rw [← htaken first _ hmore] at hfirst
    exact absurd (List.mem_of_find?_eq_some hfirst) h

end Flag

/-! ## Lists of arguments -/

theorem exists_rest {first : Item} {rest? : Option (List Item)}
    (h : (do return first :: (← rest?)) = some items) : ∃ rest, rest? = some rest ∧ items = first :: rest := by
  obtain ⟨rest, hrest, h⟩ := Option.bind_eq_some_iff.1 h
  cases h
  exact ⟨rest, hrest, rfl⟩

/-- Arguments are read the same if each of them names the same option. -/
theorem items?_congr {P : Flag → Prop}
    (hnamed : ∀ arg flag value, P flag → Flag.ofArgument? flags arg = some (flag, value) →
      Flag.ofArgument? flags' arg = some (flag, value))
    (hitems : ∀ item ∈ items, P item.flag) (h : items? flags args = some items) : items? flags' args = some items := by
  fun_induction items? flags args generalizing items with
  | case1 => exact h
  | case2 => simpa [items?] using h
  | case5 arg rest hdashes value hnames =>
    cases h
    simp [items?, hdashes, hnamed _ _ _ (hitems _ List.mem_cons_self) hnames]
  | case6 arg rest hdashes flag value hhelp hnames ih =>
    obtain ⟨others, hrest, rfl⟩ := exists_rest h
    obtain ⟨hfirst, hothers⟩ := List.forall_mem_cons.1 hitems
    simp [items?, hdashes, hnamed _ _ _ hfirst hnames, ih hothers hrest]
  | case9 arg hdashes flag hhelp hnames htakes value rest hvalue ih =>
    obtain ⟨others, hrest, rfl⟩ := exists_rest h
    obtain ⟨hfirst, hothers⟩ := List.forall_mem_cons.1 hitems
    simp [items?, hdashes, hnamed _ _ _ hfirst hnames, htakes, hvalue, ih hothers hrest]
  | case10 arg rest hdashes flag hhelp hnames htakes ih =>
    obtain ⟨others, hrest, rfl⟩ := exists_rest h
    obtain ⟨hfirst, hothers⟩ := List.forall_mem_cons.1 hitems
    simp [items?, hdashes, hnamed _ _ _ hfirst hnames, htakes, ih hothers hrest]
  | case3 | case4 | case7 | case8 => cases h

theorem flag_mem_of_items? (h : items? flags args = some items) : ∀ item ∈ items, item.flag ∈ flags := by
  fun_induction items? flags args generalizing items with
  | case1 | case2 =>
    cases h
    exact fun _ hitem => absurd hitem List.not_mem_nil
  | case5 arg rest hdashes value hnames =>
    cases h
    exact List.forall_mem_singleton.2 (Flag.mem_of_ofArgument? hnames)
  | case6 arg rest hdashes flag value hhelp hnames ih | case9 arg hdashes flag hhelp hnames htakes value rest hvalue ih
  | case10 arg rest hdashes flag hhelp hnames htakes ih =>
    obtain ⟨others, hrest, rfl⟩ := exists_rest h
    exact List.forall_mem_cons.2 ⟨Flag.mem_of_ofArgument? hnames, ih hrest⟩
  | case3 | case4 | case7 | case8 => cases h

/-! ## What is replaced -/

/-- No value of the configuration is replaced. -/
def Settings.Plain (s : Settings) : Prop := s = { config := s.config }

/-- The options that replace nothing. -/
def plainFlags : List Flag := [.help, .version, .config]

/-- The other options each replace a value. -/
theorem Settings.not_plain_set {item : Item} (h : s.set item = some t) (hflag : item.flag ∉ plainFlags) :
    ¬ t.Plain := by
  obtain ⟨flag, value⟩ := item
  cases flag with
  | help | version | config => exact absurd (by simp [plainFlags]) hflag
  | noRoutes =>
    simp only [Settings.set] at h
    split at h <;> cases h
    simp [Plain]
  | device | embedding | expiry | mtu | pool | reserved =>
    obtain ⟨replacement, -, h⟩ := Option.bind_eq_some_iff.1 h
    cases h
    simp [Plain]

theorem Settings.plain_set {item : Item} (h : s.set item = some t) : t.Plain ↔ s.Plain ∧ item.flag ∈ plainFlags := by
  by_cases hflag : item.flag ∈ plainFlags
  · rw [and_iff_left hflag]
    obtain ⟨flag, value⟩ := item
    cases flag with
    | help | version =>
      cases h
      exact Iff.rfl
    | config =>
      obtain ⟨path, -, h⟩ := Option.bind_eq_some_iff.1 h
      cases h
      cases s
      simp [Plain]
    | _ => exact absurd hflag (by simp [plainFlags])
  · exact iff_of_false (not_plain_set h hflag) fun hplain => hflag hplain.2

theorem Settings.plain_foldlM (h : items.foldlM Settings.set s = some t) :
    t.Plain ↔ s.Plain ∧ ∀ item ∈ items, item.flag ∈ plainFlags := by
  induction items generalizing s with
  | nil =>
    cases h
    simp
  | cons item items ih =>
    rw [List.foldlM_cons] at h
    obtain ⟨next, hnext, h⟩ := Option.bind_eq_some_iff.1 h
    rw [ih h, plain_set hnext, List.forall_mem_cons, and_assoc]

end Options

end CommandLine

namespace Invocation

open CommandLine

variable {flags : List Flag} {topic : Topic} {finish : Settings → Option Invocation} {path : String}
  {args : List String}

/-- Options make a command work if they are in order and none asks for help. -/
theorem ofOptions?_eq_some {asked : Invocation} (hasked : asked ≠ .help topic) :
    ofOptions? topic flags finish args = some asked ↔ ∃ items s, items? flags args = some items
      ∧ items.foldlM Settings.set {} = some s ∧ (∀ item ∈ items, item.flag ≠ .help) ∧ finish s = some asked := by
  have hany : ∀ items : List Item, items.any (·.flag = .help) = true ↔ ¬ ∀ item ∈ items, item.flag ≠ .help := by
    intro items
    simp
  simp only [ofOptions?, Option.bind_eq_bind, Option.bind_eq_some_iff, hany]
  constructor
  · rintro ⟨items, hitems, s, hs, h⟩
    split at h
    · cases h
      exact absurd rfl hasked
    · rename_i hhelp
      exact ⟨items, s, hitems, hs, Decidable.not_not.1 hhelp, h⟩
  · rintro ⟨items, s, hitems, hs, hhelp, h⟩
    refine ⟨items, hitems, s, hs, ?_⟩
    rw [if_neg (not_not_intro hhelp)]
    exact h

/-- The options of `run` that `check-config` does not have. -/
def furtherFlags : List Flag := [.device, .embedding, .pool, .reserved, .expiry, .mtu, .noRoutes]

/-- The two commands are asked for the same file by the same arguments, as long as none of these replaces a value of the
configuration. -/
theorem checkConfig_iff_run (args : List String) (path : String) :
    ofArguments? ("check-config" :: args) = some (.checkConfig path) ↔
      ofArguments? ("run" :: args) = some (.run { config := some path }) := by
  have hcheck : ofArguments? ("check-config" :: args)
      = ofOptions? .checkConfig checkFlags (fun s => s.config.map .checkConfig) args := rfl
  have hrun : ofArguments? ("run" :: args)
      = ofOptions? .run (checkFlags ++ furtherFlags) (fun s => some (.run s)) args := rfl
  rw [hcheck, hrun, ofOptions?_eq_some (by simp), ofOptions?_eq_some (by simp)]
  have hapart : ∀ flag ∈ plainFlags, flag ∉ furtherFlags := by decide
  have hcommon : checkFlags ⊆ plainFlags := by decide
  constructor
  · rintro ⟨items, s, hitems, hs, hhelp, hfinish⟩
    obtain ⟨_, hconfig, hpath⟩ := Option.map_eq_some_iff.1 hfinish
    cases hpath
    have hflags : ∀ item ∈ items, item.flag ∈ plainFlags :=
      fun item hitem => hcommon (flag_mem_of_items? hitems item hitem)
    have hplain : s.Plain := (Settings.plain_foldlM hs).2 ⟨rfl, hflags⟩
    refine ⟨items, s, ?_, hs, hhelp, ?_⟩
    · refine items?_congr (fun arg flag value hflag hnames => ?_) hflags hitems
      exact (Flag.ofArgument?_append (hapart flag hflag)).2 hnames
    · rw [hplain, hconfig]
  · rintro ⟨items, s, hitems, hs, hhelp, hfinish⟩
    cases hfinish
    obtain ⟨-, hflags⟩ := (Settings.plain_foldlM hs).1 rfl
    refine ⟨items, _, ?_, hs, hhelp, rfl⟩
    refine items?_congr (fun arg flag value hflag hnames => ?_) hflags hitems
    exact (Flag.ofArgument?_append (hapart flag hflag)).1 hnames

end Invocation

end Nat64
