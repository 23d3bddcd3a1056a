import SchemaCompiler.Proofs.OrderedMap
import SchemaCompiler.Proofs.Requests

namespace SchemaCompiler

/-! # Arguments that are given as empty

Most arguments mean their default when they are given as empty. The exceptions are the flags of the
terminal output, which are on by default and off when empty, and the mode of the script output,
where the empty word names no mode. Main statements:

* `OutputRequest.argOr_withoutEmpty`, `OutputRequest.flagOr_withoutEmpty_iff`: what leaving out the
  empty arguments does to a text and to a flag;
* `Output.alike_withoutEmpty_iff`: the requests that ask for the same without their empty arguments;
* `Output.unlike_withoutEmpty`: two requests that do not.
-/

/-! ## Arguments -/

namespace OutputRequest

variable {request : OutputRequest} {key : Text}

/-- The request without the arguments that are given as empty. -/
def withoutEmpty (request : OutputRequest) : OutputRequest :=
  { request with args := request.args.filter fun entry => entry.2 ≠ some [] }

theorem get?_withoutEmpty (request : OutputRequest) (key : Text) :
    request.withoutEmpty.args.get? key =
      (request.args.get? key).filter fun value => value ≠ some [] :=
  OrderedMap.get?_filter _ request.args key

/-- An argument that is given as empty is present with the empty value. -/
theorem arg?_eq_empty_iff : request.arg? key = some [] ↔ request.args.get? key = some (some []) := by
  rw [arg?, NamedArgs.value?, Option.join_eq_some_iff]

theorem get?_withoutEmpty_of_ne (h : request.arg? key ≠ some []) :
    request.withoutEmpty.args.get? key = request.args.get? key := by
  rw [get?_withoutEmpty]
  cases hvalue : request.args.get? key with
  | none => rfl
  | some value =>
      have hne : value ≠ some [] := by
        rintro rfl
        exact h (arg?_eq_empty_iff.2 hvalue)
      exact if_pos (decide_eq_true hne)

theorem get?_withoutEmpty_of_eq (h : request.arg? key = some []) :
    request.withoutEmpty.args.get? key = none := by
  rw [get?_withoutEmpty, arg?_eq_empty_iff.1 h]
  rfl

theorem arg?_withoutEmpty_of_ne (h : request.arg? key ≠ some []) :
    request.withoutEmpty.arg? key = request.arg? key := by
  rw [arg?, NamedArgs.value?, get?_withoutEmpty_of_ne h]
  rfl

theorem arg?_withoutEmpty_of_eq (h : request.arg? key = some []) :
    request.withoutEmpty.arg? key = none := by
  rw [arg?, NamedArgs.value?, get?_withoutEmpty_of_eq h]
  rfl

/-- A text that is given as empty means its default. -/
theorem argOr_withoutEmpty (request : OutputRequest) (key default : Text) :
    request.withoutEmpty.argOr key default = request.argOr key default := by
  by_cases h : request.arg? key = some []
  · rw [argOr, argOr, arg?_withoutEmpty_of_eq h, h]
  · rw [argOr, argOr, arg?_withoutEmpty_of_ne h]

/-- A flag that is given as empty is off, whatever its default. -/
theorem flagOr_of_empty (h : request.arg? key = some []) (default : Bool) :
    request.flagOr key default = false := by
  rw [flagOr, NamedArgs.flag?, arg?_eq_empty_iff.1 h]
  rfl

/-- So a flag that is on by default is another one when it is given as empty. -/
theorem flagOr_withoutEmpty_iff {default : Bool} :
    request.withoutEmpty.flagOr key default = request.flagOr key default ↔
      (default = true → request.arg? key ≠ some []) := by
  by_cases h : request.arg? key = some []
  · rw [flagOr_of_empty h, flagOr, NamedArgs.flag?, get?_withoutEmpty_of_eq h]
    cases default <;> simp [h]
  · rw [flagOr, NamedArgs.flag?, get?_withoutEmpty_of_ne h]
    exact iff_of_true rfl fun _ => h

end OutputRequest

/-! ## Options -/

/-- The keys that do not mean their default when they are given as empty. -/
def OutputKind.strictKeys : OutputKind → List Text
  | console => ["func", "seq", "tbl", "tbl_index", "tbl_unq"]
  | sqlScript => ["mode"]
  | createDatabase | markdownDocs | mappingCode => []

open OutputRequest

variable {request : OutputRequest}

theorem ConsoleOptions.ofRequest_withoutEmpty_iff :
    ofRequest request.withoutEmpty = ofRequest request ↔
      ∀ key ∈ OutputKind.console.strictKeys, request.arg? key ≠ some [] := by
  simp [ofRequest, flagOr_withoutEmpty_iff, OutputKind.strictKeys]

theorem MarkdownOptions.ofRequest_withoutEmpty (request : OutputRequest) :
    ofRequest request.withoutEmpty = ofRequest request := by
  simp only [ofRequest, argOr_withoutEmpty]

theorem CodeOptions.ofRequest_withoutEmpty (request : OutputRequest) :
    ofRequest request.withoutEmpty = ofRequest request := by
  simp only [ofRequest, argOr_withoutEmpty]

/-- A mode that is given as empty is none that there is. -/
theorem ScriptOptions.ofRequest_of_empty (h : request.arg? "mode" = some []) :
    ofRequest request = .error (.configuration (.unknownScriptMode [])) := by
  rw [ofRequest, h]
  rfl

theorem ScriptOptions.ofRequest_withoutEmpty_of_empty (h : request.arg? "mode" = some []) :
    ofRequest request.withoutEmpty =
      .ok ⟨.single, request.argOr "dir" [], request.argOr "file" ScriptMode.single.defaultFile⟩ := by
  rw [ofRequest, arg?_withoutEmpty_of_eq h, argOr_withoutEmpty]
  exact congrArg (fun file => Except.ok (ScriptOptions.mk .single (request.argOr "dir" []) file))
    (argOr_withoutEmpty request "file" ScriptMode.single.defaultFile)

theorem ScriptOptions.ofRequest_withoutEmpty_of_ne (h : request.arg? "mode" ≠ some []) :
    ofRequest request.withoutEmpty = ofRequest request := by
  simp only [ofRequest, argOr_withoutEmpty, arg?_withoutEmpty_of_ne h]

/-- A connection that is given as empty is refused, and so is none at all. -/
theorem DatabaseOptions.ofRequest_of_empty (h : request.arg? "conn" = some []) :
    ofRequest request = .error (.configuration .emptyConnection) ∧
      ofRequest request.withoutEmpty = .error (.configuration .noConnection) := by
  constructor
  · rw [ofRequest_of_arg? h]
    rfl
  · rw [ofRequest, arg?_withoutEmpty_of_eq h]
    rfl

theorem DatabaseOptions.ofRequest_withoutEmpty_of_ne (h : request.arg? "conn" ≠ some []) :
    ofRequest request.withoutEmpty = ofRequest request := by
  have hflag : request.withoutEmpty.flagOr "drop_if_exists" false =
      request.flagOr "drop_if_exists" false := flagOr_withoutEmpty_iff.2 nofun
  rw [ofRequest, ofRequest, arg?_withoutEmpty_of_ne h, hflag]

/-! ## Outputs -/

namespace Output

/-- Both results are the same, or failures of the same category. -/
def Alike {α : Type} : Except Error α → Except Error α → Prop
  | .ok x, .ok y => x = y
  | .error e, .error e' => ∀ category, e.is category = e'.is category
  | _, _ => False

theorem alike_of_eq {α : Type} {a b : Except Error α} (h : a = b) : Alike a b := by
  subst h
  cases a with
  | error e => exact fun _ => rfl
  | ok x => exact rfl

/-- Leaving out the empty arguments of a request makes no difference, unless the terminal output is
asked for with an empty flag or the script output with an empty mode. -/
theorem alike_withoutEmpty_iff (config : Config) (kind : OutputKind) (request : OutputRequest) :
    Alike (ofRequest config kind request.withoutEmpty) (ofRequest config kind request) ↔
      ∀ key ∈ kind.strictKeys, request.arg? key ≠ some [] := by
  cases kind with
  | console =>
      show console (.ofRequest request.withoutEmpty) = console (.ofRequest request) ↔ _
      rw [console.injEq, ConsoleOptions.ofRequest_withoutEmpty_iff]
  | sqlScript =>
      rw [ofRequest, ofRequest]
      constructor
      · -- an empty mode is an error, and no mode at all is none
        intro halike key hkey hempty
        obtain rfl := List.mem_singleton.1 hkey
        rw [ScriptOptions.ofRequest_of_empty hempty,
          ScriptOptions.ofRequest_withoutEmpty_of_empty hempty] at halike
        exact halike
      · intro h
        rw [ScriptOptions.ofRequest_withoutEmpty_of_ne (h "mode" List.mem_cons_self)]
        exact alike_of_eq rfl
  | createDatabase =>
      refine iff_of_true ?_ nofun
      rw [ofRequest, ofRequest]
      by_cases hempty : request.arg? "conn" = some []
      · obtain ⟨hgiven, hnone⟩ := DatabaseOptions.ofRequest_of_empty hempty
        rw [hgiven, hnone]
        exact fun _ => rfl
      · rw [DatabaseOptions.ofRequest_withoutEmpty_of_ne hempty]
        exact alike_of_eq rfl
  | markdownDocs =>
      refine iff_of_true (alike_of_eq ?_) nofun
      rw [ofRequest, ofRequest, MarkdownOptions.ofRequest_withoutEmpty]
  | mappingCode =>
      refine iff_of_true (alike_of_eq ?_) nofun
      rw [ofRequest, ofRequest, CodeOptions.ofRequest_withoutEmpty]

/-- A request with an empty flag. -/
def emptyFlag : OutputRequest := .parse "console(func=)"

/-- A request with an empty mode. -/
def emptyMode : OutputRequest := .parse "sql_script(mode=)"

/-- An empty flag turns off what is shown by default, and an empty mode is refused although there is
a default. -/
theorem unlike_withoutEmpty :
    (ofRequest .default .console emptyFlag =
        .ok (.console { ConsoleOptions.default with functions := false }) ∧
      ¬Alike (ofRequest .default .console emptyFlag.withoutEmpty)
        (ofRequest .default .console emptyFlag)) ∧
    ofRequest .default .sqlScript emptyMode = .error (.configuration (.unknownScriptMode [])) ∧
      ¬Alike (ofRequest .default .sqlScript emptyMode.withoutEmpty)
        (ofRequest .default .sqlScript emptyMode) := by
  refine ⟨⟨rfl, fun halike => ?_⟩, rfl, id⟩
  have hsame : console .default = console { ConsoleOptions.default with functions := false } :=
    halike
  exact absurd hsame (by decide)

end Output

end SchemaCompiler
