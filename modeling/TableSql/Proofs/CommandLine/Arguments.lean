import TableSql.CommandLine.Arguments
import TableSql.Proofs.Except

/-!
# Naming the configuration

The configuration is named by `--config` with the path as the next argument or as a part of the
same one. Reading arguments goes on from what the arguments before gave (`readOptions_append`), so
the two spellings of a path are one and the same wherever they stand, and the last path wins
(`config_spellings_agree`). Only an empty path tells them apart: it is refused as a part of the
argument and taken as an argument of its own (`empty_value_taken`).
-/

namespace TableSql.CommandLine

open Files (Path)

/-- Arguments with the values that they give for the configuration, from left to right. There are
none if a `--config` at the end still waits for its value. -/
inductive Gives : List String → List String → Prop
  | nil : Gives [] []
  | separate {arguments values : List String} (value : String) (rest : Gives arguments values) :
      Gives ("--config" :: value :: arguments) (value :: values)
  | inline {arguments values : List String} (value : String) (rest : Gives arguments values) :
      Gives (("--config=" ++ value) :: arguments) (value :: values)
  | other {argument : String} {arguments values : List String} (alone : argument ≠ "--config")
      (elsewhere : ∀ value, argument ≠ "--config=" ++ value) (rest : Gives arguments values) :
      Gives (argument :: arguments) values

/-- The configuration that a command is about. -/
def Command.config? : Command → Option Path
  | .help _ => none
  | .gen config _ | .ddl config | .init config => some config

/-! ## One argument -/

section

variable {modes : Bool} {given : Given} {argument value : String} {arguments : List String}

theorem configValue?_inline (value : String) :
    configValue? ("--config=" ++ value) = some value := by
  have mark : ("--config=" ++ value).toList = configMark ++ value.toList := String.toList_append
  rw [configValue?, mark, if_pos (List.isPrefixOf_iff_prefix.mpr (List.prefix_append _ _)),
    List.drop_left, String.ofList_toList]

/-- Only an argument of that form holds a value for the configuration. -/
theorem configValue?_eq_some_iff :
    configValue? argument = some value ↔ argument = "--config=" ++ value := by
  constructor
  · intro found
    unfold configValue? at found
    split at found
    · rename_i mark
      obtain ⟨rest, same⟩ := List.isPrefixOf_iff_prefix.mp mark
      rw [← same, List.drop_left] at found
      obtain rfl := Option.some.inj found
      have text : ("--config=" ++ String.ofList rest).toList = configMark ++ rest :=
        String.toList_append.trans (congrArg (configMark ++ ·) String.toList_ofList)
      exact String.toList_injective (same.symm.trans text.symm)
    · cases found
  · rintro rfl
    exact configValue?_inline value

/-- An argument that begins with the mark of a value is none of the other options. -/
theorem inline_ne {option : String} (plain : configValue? option = none) (value : String) :
    "--config=" ++ value ≠ option := by
  rintro rfl
  rw [configValue?_inline] at plain
  cases plain

theorem readOptions_separate :
    readOptions modes given ("--config" :: value :: arguments) =
      readOptions modes { given with config := ⟨value⟩ } arguments := by
  rw [readOptions, if_neg (by decide), if_pos rfl]

/-- An argument other than `--config` is read by itself, and the others after it. -/
theorem readOptions_single (alone : argument ≠ "--config") :
    readOptions modes given (argument :: arguments) =
      if isHelp argument then .ok none
      else
        readArgument modes given argument >>= fun given => readOptions modes given arguments := by
  rw [readOptions.eq_def]
  dsimp only
  rw [if_neg alone]
  cases readArgument modes given argument <;> rfl

/-- A value in the same argument is the path of the configuration, unless it is empty. -/
theorem readArgument_inline (value : String) :
    readArgument modes given ("--config=" ++ value) =
      if value.isEmpty then .error .noConfigValue else .ok { given with config := ⟨value⟩ } := by
  have notDryRun : ("--config=" ++ value == "--dry-run") = false :=
    beq_false_of_ne (inline_ne (by decide) value)
  have notCheck : ("--config=" ++ value == "--check") = false :=
    beq_false_of_ne (inline_ne (by decide) value)
  simp only [readArgument, notDryRun, notCheck, Bool.and_false, Bool.false_eq_true, if_false,
    configValue?_inline]

/-- The arguments after a value in the same argument are read with that path. -/
theorem readOptions_inline :
    readOptions modes given (("--config=" ++ value) :: arguments) =
      if value.isEmpty then .error .noConfigValue
      else readOptions modes { given with config := ⟨value⟩ } arguments := by
  have notHelp : isHelp ("--config=" ++ value) = false := by
    rw [isHelp, beq_false_of_ne (inline_ne (by decide) value),
      beq_false_of_ne (inline_ne (by decide) value)]
    rfl
  rw [readOptions_single (inline_ne (by decide) value), notHelp, readArgument_inline]
  by_cases empty : value.isEmpty
  · simp [empty, bind, Except.bind]
  · simp [empty, bind, Except.bind]

end

/-! ## Reading on -/

section

variable {modes : Bool} {given : Given} {arguments values : List String}

/-- Reads on after options, unless these asked for help. -/
def readOn (modes : Bool) (arguments : List String) :
    Option Given → Except ArgumentFault (Option Given)
  | some given => readOptions modes given arguments
  | none => .ok none

/-- Reading stops at the first request for help and at the first fault, and else it goes on from
what was given so far. -/
theorem readOptions_append (gives : Gives arguments values) (after : List String) :
    readOptions modes given (arguments ++ after) =
      readOptions modes given arguments >>= readOn modes after := by
  induction gives generalizing given with
  | nil => rw [readOptions]; rfl
  | separate value _ ih =>
    rw [List.cons_append, List.cons_append, readOptions_separate, readOptions_separate, ih]
  | inline value _ ih =>
    rw [List.cons_append, readOptions_inline, readOptions_inline]
    split
    · rfl
    · exact ih
  | @other argument arguments values alone _ _ ih =>
    rw [List.cons_append, readOptions_single alone, readOptions_single alone]
    split
    · rfl
    · cases readArgument modes given argument with
      | error fault => rfl
      | ok next => exact ih

/-- Accepted arguments have been read to their end. -/
theorem exists_gives {last : Given} (read : readOptions modes given arguments = .ok (some last)) :
    ∃ values, Gives arguments values := by
  fun_induction readOptions modes given arguments with
  | case1 => exact ⟨[], .nil⟩
  | case2 | case3 | case6 => cases read
  | case4 _ value _ _ ih =>
    obtain ⟨values, rest⟩ := ih read
    exact ⟨_, .separate value rest⟩
  | case5 _ argument _ _ alone _ _ ih =>
    obtain ⟨values, rest⟩ := ih read
    by_cases mark : ∃ value, argument = "--config=" ++ value
    · obtain ⟨value, rfl⟩ := mark
      exact ⟨_, .inline value rest⟩
    · exact ⟨_, .other alone (not_exists.mp mark) rest⟩

/-- The last of some paths, or the one before them. -/
def lastPath (before : Path) (values : List String) : Path :=
  (values.getLast?.map fun value => ⟨value⟩).getD before

theorem lastPath_cons (before : Path) (value : String) (values : List String) :
    lastPath before (value :: values) = lastPath ⟨value⟩ values := by
  cases last : values.getLast? <;> simp [lastPath, List.getLast?_cons, last]

/-- An argument that gives no value leaves the path of the configuration. -/
theorem config_readArgument {argument : String} {next : Given}
    (elsewhere : ∀ value, argument ≠ "--config=" ++ value)
    (read : readArgument modes given argument = .ok next) : next.config = given.config := by
  unfold readArgument at read
  split at read
  · cases read
    rfl
  · split at read
    · cases read
      rfl
    · split at read
      · rename_i value found
        exact absurd (configValue?_eq_some_iff.mp found) (elsewhere value)
      · cases read

/-- The path that is read in the end is the last one that the arguments give, by induction on what
they give. -/
theorem config_of_gives (gives : Gives arguments values) {last : Given}
    (read : readOptions modes given arguments = .ok (some last)) :
    last.config = lastPath given.config values := by
  induction gives generalizing given with
  | nil =>
    rw [readOptions] at read
    cases read
    rfl
  | separate value _ ih =>
    rw [readOptions_separate] at read
    rw [ih read, lastPath_cons]
  | inline value _ ih =>
    rw [readOptions_inline] at read
    split at read
    · cases read
    · rw [ih read, lastPath_cons]
  | @other argument arguments values alone elsewhere _ ih =>
    rw [readOptions_single alone] at read
    split at read
    · cases read
    · obtain ⟨next, here, rest⟩ := bind_eq_ok.mp read
      rw [ih rest, config_readArgument elsewhere here]

/-! ## What the path does not decide -/

/-- The options of a command but for the configuration. -/
def Given.flags (given : Given) : Bool × Bool := (given.dryRun, given.check)

/-- What an argument does to the other options, and whether it is refused, does not depend on the
path that was given before it. -/
theorem flags_readArgument (modes : Bool) {first second : Given} (same : first.flags = second.flags)
    (argument : String) :
    (readArgument modes first argument).map Given.flags =
      (readArgument modes second argument).map Given.flags := by
  obtain ⟨sameDryRun, sameCheck⟩ := Prod.mk.inj same
  unfold readArgument
  split
  · simp [Except.map, Given.flags, sameCheck]
  · split
    · simp [Except.map, Given.flags, sameDryRun]
    · split
      · split
        · rfl
        · simp [Except.map, Given.flags, sameDryRun, sameCheck]
      · rfl

/-- The same is true of all arguments: paths that differ make no difference to the other options. -/
theorem flags_readOptions {first second : Given} (same : first.flags = second.flags)
    (arguments : List String) :
    (readOptions modes first arguments).map (Option.map Given.flags) =
      (readOptions modes second arguments).map (Option.map Given.flags) := by
  fun_induction readOptions modes first arguments generalizing second with
  | case1 => rw [readOptions]; simp [Except.map, same]
  | case2 first argument rest help => rw [readOptions.eq_def]; simp [help]
  | case3 => rfl
  | case4 first value rest _ ih =>
    rw [readOptions_separate]
    exact ih same
  | case5 first argument rest noHelp alone next here ih =>
    -- The second reading takes the argument too, and its flags stay those of the first.
    rw [readOptions_single alone, if_neg noHelp]
    rcases map_eq_map_cases (flags_readArgument modes same argument) with
      ⟨_, failed, -⟩ | ⟨_, other, read, there, alike⟩
    · cases here.symm.trans failed
    · obtain rfl := Except.ok.inj (here.symm.trans read)
      rw [there]
      exact ih alike
  | case6 first argument rest noHelp alone fault here =>
    rw [readOptions_single alone, if_neg noHelp]
    rcases map_eq_map_cases (flags_readArgument modes same argument) with
      ⟨_, failed, there⟩ | ⟨_, _, read, -, -⟩
    · obtain rfl := Except.error.inj (here.symm.trans failed)
      rw [there]
      rfl
    · cases here.symm.trans read

end

/-! ## Commands -/

/-- How a command is made of its options: what it is about is the configuration that was given, and
whether it is refused is up to the other options. -/
structure MadeOfOptions (make : Option Given → Except ArgumentFault Command) : Prop where
  config : ∀ given? command path, make given? = .ok command → command.config? = some path →
    ∃ given, given? = some given ∧ given.config = path
  refused : ∀ first second, Option.map Given.flags first = Option.map Given.flags second →
    (make first).map (fun _ => ()) = (make second).map fun _ => ()

/-- A command with no options of its own is made of the path alone. -/
theorem madeOfOptions_plain (topic : Topic) (command : Path → Command)
    (about : ∀ path, (command path).config? = some path) :
    MadeOfOptions fun
      | none => .ok (.help topic)
      | some given => .ok (command given.config) := by
  constructor
  · rintro (_ | given) _ path made same
    · cases made
      cases same
    · cases made
      exact ⟨given, rfl, Option.some.inj ((about given.config).symm.trans same)⟩
  · rintro (_ | first) (_ | second) same
    · rfl
    · cases same
    · cases same
    · rfl

/-- For `gen` it is the other options that decide on the mode, or that there is none. -/
theorem madeOfOptions_gen :
    MadeOfOptions fun
      | none => .ok (.help .gen)
      | some given => given.mode >>= fun mode => .ok (.gen given.config mode) := by
  constructor
  · rintro (_ | given) _ path made same
    · cases made
      cases same
    · obtain ⟨mode, -, made⟩ := bind_eq_ok.mp made
      cases made
      exact ⟨given, rfl, Option.some.inj same⟩
  · rintro (_ | first) (_ | second) same
    · rfl
    · cases same
    · cases same
    · obtain ⟨sameDryRun, sameCheck⟩ := Prod.mk.inj (Option.some.inj same)
      have sameMode : first.mode = second.mode := by
        rw [Given.mode, Given.mode, sameDryRun, sameCheck]
      show (first.mode >>= _).map _ = (second.mode >>= _).map _
      rw [sameMode]
      cases second.mode <;> rfl

/-- The first argument decides the answer, or how the command is made of its options. -/
theorem parse_cases (name : String) :
    (∃ answer, (∀ arguments, parse (name :: arguments) = answer) ∧
      ∀ command, answer = .ok command → command.config? = none) ∨
    ∃ modes make, MadeOfOptions make ∧
      ∀ arguments, parse (name :: arguments) = readOptions modes {} arguments >>= make := by
  by_cases help : isHelp name
  · refine .inl ⟨.ok (.help .program), fun arguments => by rw [parse.eq_def]; simp [help], ?_⟩
    rintro _ ⟨⟩
    rfl
  · by_cases gen : name = "gen"
    · subst gen
      exact .inr ⟨true, _, madeOfOptions_gen, fun arguments => rfl⟩
    · by_cases ddl : name = "ddl"
      · subst ddl
        exact .inr ⟨false, _, madeOfOptions_plain .ddl .ddl fun _ => rfl, fun arguments => rfl⟩
      · by_cases init : name = "init"
        · subst init
          exact .inr ⟨false, _, madeOfOptions_plain .init .init fun _ => rfl, fun arguments => rfl⟩
        · refine .inl ⟨.error (.unknownCommand name), fun arguments => ?_, nofun⟩
          rw [parse.eq_def]
          simp [help]

variable {arguments values : List String}

/-- Arguments that are read alike from every state can be put for one another at the end of a
command line. -/
theorem parse_congr {first second : List String} (gives : Gives arguments values)
    (same : ∀ modes given, readOptions modes given first = readOptions modes given second)
    (name : String) :
    parse (name :: (arguments ++ first)) = parse (name :: (arguments ++ second)) := by
  rcases parse_cases name with ⟨answer, all, -⟩ | ⟨modes, make, -, all⟩
  · rw [all, all]
  · rw [all, all, readOptions_append gives, readOptions_append gives]
    have goesOn : readOn modes first = readOn modes second := by
      funext so
      cases so with
      | none => rfl
      | some given => exact same modes given
    rw [goesOn]

/-- Options after others are refused alike if they differ in the configuration only. -/
theorem parse_refused_congr {first second : List String} (gives : Gives arguments values)
    (same : ∀ modes given, (readOptions modes given first).map (Option.map Given.flags) =
      (readOptions modes given second).map (Option.map Given.flags))
    (name : String) (fault : ArgumentFault) :
    parse (name :: (arguments ++ first)) = .error fault ↔
      parse (name :: (arguments ++ second)) = .error fault := by
  rcases parse_cases name with ⟨answer, all, -⟩ | ⟨modes, make, made, all⟩
  · rw [all, all]
  · rw [all, all, readOptions_append gives, readOptions_append gives]
    cases readOptions modes {} arguments with
    | error before => exact Iff.rfl
    | ok given? =>
      cases given? with
      | none => exact Iff.rfl
      | some given =>
        -- The answers may differ in the configuration, but not in whether there is a fault.
        exact error_iff_of_map_eq (map_bind_congr (same modes given) made.refused)

/-- The configuration may be named in either spelling: wherever an option may stand, `--config=` and
a path that is not empty is the same as `--config` and the path as the next argument. Before an
empty path the two differ: as a part of the argument it counts as no path at all, and as an
argument of its own it is refused no more than any other. Of the paths that accepted arguments give
the last one counts. -/
theorem config_spellings_agree (name : String) (arguments : List String) :
    (∀ values value after, Gives arguments values → value ≠ "" →
      parse (name :: (arguments ++ ("--config=" ++ value) :: after)) =
        parse (name :: (arguments ++ "--config" :: value :: after))) ∧
    (∀ values after, Gives arguments values →
      parse (name :: (arguments ++ "--config=" :: after)) =
        parse (name :: (arguments ++ ["--config"]))) ∧
    (∀ values value other after, Gives arguments values →
      ∀ fault, parse (name :: (arguments ++ "--config" :: value :: after)) = .error fault ↔
        parse (name :: (arguments ++ "--config" :: other :: after)) = .error fault) ∧
    ∀ command path, parse (name :: arguments) = .ok command → command.config? = some path →
      (∃ values, Gives arguments values) ∧
        ∀ values, Gives arguments values → path = ⟨values.getLast?.getD "sqlrecord.toml"⟩ := by
  refine ⟨fun values value after gives filled => ?_, fun values after gives => ?_,
    fun values value other after gives fault => ?_, fun command path parsed about => ?_⟩
  · refine parse_congr gives (fun modes given => ?_) name
    rw [readOptions_inline, readOptions_separate, if_neg]
    simpa using filled
  · refine parse_congr gives (fun modes given => ?_) name
    rw [show "--config=" = "--config=" ++ "" from rfl, readOptions_inline]
    rfl
  · refine parse_refused_congr gives (fun modes given => ?_) name fault
    have same : Given.flags { given with config := ⟨value⟩ } =
        Given.flags { given with config := ⟨other⟩ } := rfl
    rw [readOptions_separate, readOptions_separate]
    exact flags_readOptions same after
  · rcases parse_cases name with ⟨answer, all, none⟩ | ⟨modes, make, made, all⟩
    · rw [none command ((all arguments).symm.trans parsed)] at about
      cases about
    · rw [all] at parsed
      obtain ⟨given?, read, command⟩ := bind_eq_ok.mp parsed
      obtain ⟨given, rfl, rfl⟩ := made.config given? _ path command about
      refine ⟨exists_gives read, fun values gives => ?_⟩
      rw [config_of_gives gives read, lastPath]
      cases values.getLast? <;> rfl

/-- An empty path is refused in one spelling and taken in the other. -/
theorem empty_value_taken :
    parse ["gen", "--config="] = .error .noConfigValue ∧
      parse ["gen", "--config", ""] = .ok (.gen ⟨""⟩ .write) ∧
      ¬∀ arguments values value after, Gives arguments values →
        parse ("gen" :: (arguments ++ ("--config=" ++ value) :: after)) =
          parse ("gen" :: (arguments ++ "--config" :: value :: after)) := by
  have refused : parse ["gen", "--config="] = .error .noConfigValue := rfl
  have taken : parse ["gen", "--config", ""] = .ok (.gen ⟨""⟩ .write) := rfl
  refine ⟨refused, taken, fun same => ?_⟩
  have both := same [] [] "" [] .nil
  cases refused.symm.trans (both.trans taken)

end TableSql.CommandLine
