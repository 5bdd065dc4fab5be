import AccessReport.Command.Line
import AccessReport.Proofs.Outcomes
/-!
# What arguments give

What was given so far stays legal from one argument to the next: no option comes twice, each of
them is one that the place has, with a value that it takes, and there are no more plain arguments
than the place takes. In the end no option waits for its value any more.

* `Legal`: what is legal in a place.
* `legal_addArgument`: one argument.
* `legal_readAll`: arguments up to the end.
* `CommandLine.paths_ofArguments`: no path of a command line is empty.
-/
namespace AccessReport

namespace Arguments

variable {grammar : Grammar} {given next : Given}

/-- An option that the place has, with a value that it takes. -/
def Takes (grammar : Grammar) (option : String × String) : Prop :=
  ∃ switch ∈ grammar.switches, switch.name = option.1 ∧
    (switch.effect = .flag ∨ accepts switch option.2 = true)

structure Legal (grammar : Grammar) (given : Given) : Prop where
  once : (given.options.map (·.1)).Nodup
  taken : ∀ option ∈ given.options, Takes grammar option
  awaited : ∀ waiting ∈ given.pending, waiting.1 ∈ grammar.switches
  plain : given.plain.length ≤ grammar.plain

theorem legal_empty (grammar : Grammar) : Legal grammar {} where
  once := List.nodup_nil
  taken _ h := absurd h List.not_mem_nil
  awaited _ h := nomatch h
  plain := Nat.zero_le grammar.plain

/-! ## Single steps -/

theorem legal_addOption {name value : String} (h : Legal grammar given)
    (htakes : Takes grammar (name, value)) (hok : addOption given name value = .ok next) :
    Legal grammar next ∧ next.pending = given.pending := by
  unfold addOption at hok
  split at hok
  · cases hok
  · rename_i hnew
    cases hok
    have hfresh : name ∉ given.options.map (·.1) := by simpa [Given.has] using hnew
    refine ⟨⟨?_, ?_, h.awaited, h.plain⟩, rfl⟩
    · rw [List.map_append]
      refine List.nodup_append.mpr ⟨h.once, by simp, ?_⟩
      intro known hknown other hother heq
      obtain rfl : other = name := by simpa using hother
      exact hfresh (heq ▸ hknown)
    · intro option ho
      rcases List.mem_append.mp ho with hold | hlast
      · exact h.taken option hold
      · rw [List.mem_singleton.mp hlast]
        exact htakes

/-- Once an option is settled, none waits. -/
theorem legal_settle (h : Legal grammar given) (hok : settle given = .ok next) :
    Legal grammar next ∧ next.pending = none := by
  unfold settle at hok
  split at hok
  · rename_i hnone
    cases hok
    exact ⟨h, hnone⟩
  · cases hok
  · rename_i switch value hsome
    split at hok
    · rename_i haccepts
      have hswitch := h.awaited (switch, some value) hsome
      have hclear : Legal grammar { given with pending := none } :=
        ⟨h.once, h.taken, fun _ hw => (nomatch hw), h.plain⟩
      exact legal_addOption hclear ⟨switch, hswitch, rfl, .inr haccepts⟩ hok
    · cases hok

theorem legal_raise {switch : Switch} (hswitch : switch ∈ grammar.switches)
    (h : Legal grammar given) (hok : raise switch given = .ok next) : Legal grammar next := by
  obtain ⟨settled, hsettled, hok⟩ := bind_eq_ok.mp hok
  obtain ⟨hlegal, -⟩ := legal_settle h hsettled
  split at hok
  · cases hok
  · rename_i hflag
    exact (legal_addOption hlegal ⟨switch, hswitch, rfl, .inl hflag⟩ hok).1
  · cases hok
    refine ⟨hlegal.once, hlegal.taken, ?_, hlegal.plain⟩
    intro waiting hw
    rw [← Option.some.inj hw]
    exact hswitch

theorem legal_raiseWith {switch : Switch} {value : String} (hswitch : switch ∈ grammar.switches)
    (h : Legal grammar given) (hok : raiseWith switch value given = .ok next) :
    Legal grammar next := by
  obtain ⟨settled, hsettled, hok⟩ := bind_eq_ok.mp hok
  obtain ⟨hlegal, -⟩ := legal_settle h hsettled
  split at hok
  · rename_i haccepts
    exact (legal_addOption hlegal ⟨switch, hswitch, rfl, .inr haccepts⟩ hok).1
  · cases hok

theorem legal_raiseLong {cs : List Char} (h : Legal grammar given)
    (hok : raiseLong grammar cs given = .ok next) : Legal grammar next := by
  unfold raiseLong at hok
  dsimp only at hok
  split at hok
  · rename_i hfound _
    exact legal_raiseWith (List.mem_of_find?_eq_some hfound) h hok
  · rename_i hfound _
    exact legal_raise (List.mem_of_find?_eq_some hfound) h hok
  · cases hok

theorem legal_addPlain {argument : String} (h : Legal grammar given)
    (hok : addPlain grammar given argument = .ok next) : Legal grammar next := by
  obtain ⟨settled, hsettled, hok⟩ := bind_eq_ok.mp hok
  obtain ⟨hlegal, -⟩ := legal_settle h hsettled
  split at hok
  · cases hok
    exact ⟨hlegal.once, hlegal.taken, hlegal.awaited, by simpa⟩
  · cases hok

/-! ## Rows of arguments -/

/-- What every turn of a loop keeps, the loop keeps. -/
theorem legal_foldlM {α : Type} {turn : Given → α → Except Refusal Given}
    (hturn : ∀ given item next, Legal grammar given → turn given item = .ok next →
      Legal grammar next)
    {items : List α} (h : Legal grammar given) (hok : items.foldlM turn given = .ok next) :
    Legal grammar next := by
  induction items generalizing given with
  | nil =>
    cases hok
    exact h
  | cons item items ih =>
    obtain ⟨middle, hitem, hrest⟩ := bind_eq_ok.mp hok
    exact ih (hturn given item middle h hitem) hrest

theorem legal_raiseLetters {letters : List Char} (h : Legal grammar given)
    (hok : raiseLetters grammar given letters = .ok next) : Legal grammar next := by
  refine legal_foldlM (fun given letter next hgiven hletter => ?_) h hok
  split at hletter
  · rename_i hfound
    exact legal_raise (List.mem_of_find?_eq_some hfound) hgiven hletter
  · cases hletter

theorem legal_addArgument {argument : String} (h : Legal grammar given)
    (hok : addArgument grammar given argument = .ok next) : Legal grammar next := by
  unfold addArgument at hok
  split at hok
  · exact legal_raiseLong h hok
  · exact legal_raiseLetters h hok
  · split at hok
    · rename_i switch hpending
      cases hok
      refine ⟨h.once, h.taken, ?_, h.plain⟩
      intro waiting hw
      rw [← Option.some.inj hw]
      exact h.awaited (switch, none) hpending
    · exact legal_addPlain h hok

theorem legal_read {arguments : List String} {left : Option (String × List String)}
    (h : Legal grammar given) (hok : read grammar given arguments = .ok (next, left)) :
    Legal grammar next := by
  induction arguments generalizing given with
  | nil =>
    cases hok
    exact h
  | cons argument rest ih =>
    unfold read at hok
    split at hok
    · cases hok
      exact h
    · split at hok
      · obtain ⟨reached, hplain, hok⟩ := bind_eq_ok.mp hok
        cases hok
        exact legal_foldlM (fun _ _ _ => legal_addPlain) h hplain
      · obtain ⟨reached, hargument, hok⟩ := bind_eq_ok.mp hok
        exact ih (legal_addArgument h hargument) hok

/-- **Arguments.** Whatever a place accepts is legal there, and every option has its value. -/
theorem legal_readAll {arguments : List String} (hok : readAll grammar arguments = .ok given) :
    Legal grammar given ∧ given.pending = none := by
  obtain ⟨⟨reached, left⟩, hread, hsettle⟩ := bind_eq_ok.mp hok
  exact legal_settle (legal_read (legal_empty grammar) hread) hsettle

end Arguments

/-! ## Paths -/

open Arguments

/-- The paths that a command reads and writes. -/
def Command.paths : Command → List String
  | decorate options | unify options _ => options.input :: options.out.toList
  | cards options _ selection => options.input :: (options.out.toList ++ selection.toList)
  | rules _ | explain _ | validate _ _ => []

namespace CommandLine

def paths (line : CommandLine) : List String := line.source.path.toList ++ line.command.paths

/-- The options that have a path for a value. -/
def pathNames : List String := ["config", "input", "out", "selection"]

/-- Options with these names take nothing but paths. -/
def TakesPaths (grammar : Grammar) : Prop :=
  ∀ switch ∈ grammar.switches, switch.name ∈ pathNames → switch.effect = .value isPath

theorem takesPaths_grammar : TakesPaths grammar := by
  simp [TakesPaths, grammar, globalSwitches, helpSwitch, pathNames]

theorem takesPaths_grammarOf (name : String) : TakesPaths (grammarOf name) := by
  unfold grammarOf
  split <;> simp [TakesPaths, globalSwitches, scanSwitches, helpSwitch, needsReviewSwitch,
    formatSwitch, pathNames]

theorem value_ne_empty {place : Grammar} {given : Given} {name value : String}
    (hplace : TakesPaths place) (h : Legal place given) (hname : name ∈ pathNames)
    (hvalue : given.value? name = some value) : value ≠ "" := by
  obtain ⟨before, rest, heq, -⟩ := List.lookup_eq_some_iff.mp hvalue
  have hm : (name, value) ∈ given.options := by simp [heq]
  obtain ⟨switch, hswitch, hsame, htaken⟩ := h.taken (name, value) hm
  have heffect := hplace switch hswitch (by rwa [hsame])
  rcases htaken with hflag | haccepts
  · rw [heffect] at hflag
    cases hflag
  · simpa [accepts, heffect, isPath] using haccepts

theorem paths_scanOptions {name : String} {given : Given} {options : ScanOptions}
    (h : Legal (grammarOf name) given) (hoptions : scanOptions? given = some options) :
    ∀ path ∈ options.input :: options.out.toList, path ≠ "" := by
  have hplace := takesPaths_grammarOf name
  obtain ⟨input, hinput, hmade⟩ := Option.bind_eq_some_iff.mp hoptions
  cases hmade
  refine List.forall_mem_cons.mpr ⟨value_ne_empty hplace h (by decide) hinput, ?_⟩
  intro path hpath
  exact value_ne_empty hplace h (by decide : "out" ∈ pathNames) (Option.mem_toList.mp hpath)

theorem paths_command {name : String} {given : Given} {command : Command}
    (h : Legal (grammarOf name) given) (hcommand : command? name given = some command) :
    ∀ path ∈ command.paths, path ≠ "" := by
  unfold command? at hcommand
  dsimp only at hcommand
  split at hcommand
  case h_1 | h_2 =>
    obtain ⟨options, hoptions, hmade⟩ := Option.bind_eq_some_iff.mp hcommand
    cases hmade
    exact paths_scanOptions h hoptions
  case h_3 =>
    obtain ⟨options, hoptions, hmade⟩ := Option.bind_eq_some_iff.mp hcommand
    cases hmade
    show ∀ path ∈ (options.input :: options.out.toList) ++ (given.value? "selection").toList,
      path ≠ ""
    refine List.forall_mem_append.mpr ⟨paths_scanOptions h hoptions, ?_⟩
    intro path hpath
    exact value_ne_empty (takesPaths_grammarOf "cards") h (by decide : "selection" ∈ pathNames)
      (Option.mem_toList.mp hpath)
  case h_5 =>
    obtain ⟨ruleId, -, hmade⟩ := Option.bind_eq_some_iff.mp hcommand
    cases hmade
    simp [Command.paths]
  case h_7 => cases hcommand
  all_goals
    cases hcommand
    simp [Command.paths]

/-- **Paths.** However the arguments are written, no path of the command line is empty. -/
theorem paths_ofArguments {arguments : List String} {line : CommandLine}
    (hok : ofArguments arguments = .ok line) : ∀ path ∈ line.paths, path ≠ "" := by
  obtain ⟨⟨before, left⟩, hread, hok⟩ := bind_eq_ok.mp hok
  have hearly := legal_read (legal_empty grammar) hread
  split at hok
  · cases hok
  · rename_i given name rest heq
    obtain ⟨rfl, rfl⟩ := Prod.mk.inj heq
    split at hok
    · cases hok
    · obtain ⟨behind, hbehind, hok⟩ := bind_eq_ok.mp hok
      obtain ⟨hlegal, -⟩ := legal_readAll hbehind
      split at hok
      · cases hok
      · rename_i command hcommand
        obtain ⟨settled, hsettled, hok⟩ := bind_eq_ok.mp hok
        obtain ⟨hbefore, -⟩ := legal_settle hearly hsettled
        cases hok
        intro path hpath
        rcases List.mem_append.mp hpath with hsource | hinner
        · rcases Option.or_eq_some_iff.mp (Option.mem_toList.mp hsource) with hlater | hearlier
          · exact value_ne_empty (takesPaths_grammarOf name) hlegal (by decide) hlater
          · exact value_ne_empty takesPaths_grammar hbefore (by decide) hearlier.2
        · exact paths_command hlegal hcommand path hinner

end CommandLine
end AccessReport
