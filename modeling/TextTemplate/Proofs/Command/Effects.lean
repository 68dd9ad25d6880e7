import TextTemplate.Command.Run
import TextTemplate.Proofs.DottedPath
import TextTemplate.Proofs.PlainText
import TextTemplate.Proofs.Variables.Layers

/-!
# Effects of a run

A run goes through four stages: it reads the template, loads the document of variables, applies the
assignments and renders. None of them writes. The first that fails ends the run with its error, and
no file has been touched by then, whatever paths the options name; only when all have succeeded, the
text is printed or written, and a file that is written is the only one that changes.

What a system of files has to do for this is to write a file as a whole and no other one
(`LawfulFileSystem`).
-/

namespace TextTemplate.Command

open Assignment (Denotes)

/-- A system of files in which writing gives the file that a path names its content, and leaves all
other files as they are. Several paths may name one file. -/
class LawfulFileSystem (φ : Type) extends FileSystem φ where
  File : Type
  file? : φ → String → Option File
  content? : φ → File → Option ByteArray
  write_ok {files written : φ} {path : String} {content : ByteArray}
    (done : FileSystem.write files path content = (written, .ok ())) :
    ∃ file, file? files path = some file ∧ content? written file = some content ∧
      ∀ other, other ≠ file → content? written other = content? files other

theorem Directory.write_eq_ok {directory written : Directory} {path : String}
    {content : ByteArray} (done : directory.write path content = (written, .ok ())) :
    ∃ way, way? (fun way => !directory.isFile way) path = some way ∧
      written = ⟨place way content directory.files⟩ := by
  unfold write at done
  split at done
  · simp at done
  · rename_i way leads
    split at done
    · simp at done
    · exact ⟨way, leads, (Prod.mk.inj done).1.symm⟩

theorem Directory.readText_of_get? {directory : Directory} {way : List String} {path : String}
    {text : Text} (leads : way? directory.isDirectory path = some way)
    (stored : directory.get? way = some (String.ofList text).toUTF8) :
    readText directory path = .ok text := by
  have content : FileSystem.read directory path = .ok (String.ofList text).toUTF8 := by
    simp [FileSystem.read, read, leads, stored]
  rw [readText, content]
  exact decode_toUTF8 text

instance : LawfulFileSystem Directory where
  File := List String
  file? directory path := Directory.way? (fun way => !directory.isFile way) path
  content? directory way := directory.get? way
  write_ok := by
    intro directory written path content done
    rcases Directory.write_eq_ok done with ⟨way, leads, rfl⟩
    exact ⟨way, leads, Directory.get?_place_same way content directory.files,
      fun other different => Directory.get?_place_of_ne different content directory.files⟩

variable {φ : Type}

/-! ## Stages -/

section Stages

variable [FileSystem φ] (options : Options) (files : φ) (input : ByteArray)

/-- The renderer of a run. -/
def Options.renderer : Renderer Empty :=
  { Renderer.standard with maxDepth := options.maxDepth }

/-- All stages in front of the output succeed. -/
structure Succeeds (template : Text) (loaded scope : Scope Empty) (text : Text) : Prop where
  reads : readTemplate options files input = .ok template
  loads : (loadContext options (readText files) options.scope).outcome = .ok loaded
  assigns : (loaded.assign options.assignments).value = (scope, .ok ())
  renders : (options.renderer.render scope template).outcome = .ok text

/-- A stage fails with an error, and the stages in front of it succeed. -/
inductive Fails : Error → Prop where
  | template {message : String} (reads : readTemplate options files input = .error message) :
    Fails (.system message)
  | context {template : Text} {fault : Error}
    (reads : readTemplate options files input = .ok template)
    (loads : (loadContext options (readText files) options.scope).outcome = .error fault) :
    Fails fault
  | assignments {template : Text} {loaded : Scope Empty} {fault : Error}
    (reads : readTemplate options files input = .ok template)
    (loads : (loadContext options (readText files) options.scope).outcome = .ok loaded)
    (assigns : (loaded.assign options.assignments).value.2 = .error fault) : Fails fault
  | render {template : Text} {loaded scope : Scope Empty} {fault : Error}
    (reads : readTemplate options files input = .ok template)
    (loads : (loadContext options (readText files) options.scope).outcome = .ok loaded)
    (assigns : (loaded.assign options.assignments).value = (scope, .ok ()))
    (renders : (options.renderer.render scope template).outcome = .error fault) : Fails fault

variable {options files input}

theorem succeeds_or_fails (options : Options) (files : φ) (input : ByteArray) :
    (∃ template loaded scope text, Succeeds options files input template loaded scope text) ∨
      ∃ fault, Fails options files input fault := by
  cases reads : readTemplate options files input with
  | error message => exact .inr ⟨_, .template reads⟩
  | ok template =>
      cases loads : (loadContext options (readText files) options.scope).outcome with
      | error fault => exact .inr ⟨fault, .context reads loads⟩
      | ok loaded =>
          cases assigns : (loaded.assign options.assignments).value with
          | mk scope result =>
              cases result with
              | error fault => exact .inr ⟨fault, .assignments reads loads (by rw [assigns])⟩
              | ok _ =>
                  cases renders : (options.renderer.render scope template).outcome with
                  | error fault => exact .inr ⟨fault, .render reads loads assigns renders⟩
                  | ok text =>
                      exact .inl ⟨template, loaded, scope, text, reads, loads, assigns, renders⟩

theorem outcome_applyAssignments (options : Options) (scope : Scope Empty) :
    (applyAssignments options scope).outcome =
      (scope.assign options.assignments).value.2.map
        fun _ => (scope.assign options.assignments).value.1 := by
  rw [applyAssignments, Attempt.outcome_bind, Attempt.outcome_ofTraced]
  rcases (scope.assign options.assignments).value with ⟨reached, result⟩
  cases result <;> rfl

theorem outcome_loadDocument (scope : Scope Empty) (path : String) (reading : Except String Text) :
    (scope.loadDocument path reading).outcome =
      reading.mapError Error.system >>= scope.addDocument := by
  simp only [Scope.loadDocument, Attempt.outcome_bind, Attempt.outcome_ofExcept]
  rfl

theorem outcome_produce (options : Options) (template : Except String Text)
    (context : String → Except String Text) :
    (produce options template context).outcome =
      template.mapError Error.system >>= fun template =>
        (loadContext options context options.scope).outcome >>= fun loaded =>
          (applyAssignments options loaded).outcome >>= fun scope =>
            (options.renderer.render scope template).outcome := by
  simp only [produce, Attempt.outcome_bind, Attempt.outcome_ofExcept]
  rfl

theorem Succeeds.outcome {template : Text} {loaded scope : Scope Empty} {text : Text}
    (succeeds : Succeeds options files input template loaded scope text) :
    (produce options (readTemplate options files input) (readText files)).outcome = .ok text := by
  simp [outcome_produce, outcome_applyAssignments, succeeds.reads, succeeds.loads,
    succeeds.assigns, succeeds.renders, Except.mapError, Except.map, bind, Except.bind]

theorem Fails.outcome {fault : Error} (fails : Fails options files input fault) :
    (produce options (readTemplate options files input) (readText files)).outcome =
      .error fault := by
  cases fails with
  | template reads => simp [outcome_produce, reads, Except.mapError, bind, Except.bind]
  | context reads loads =>
      simp [outcome_produce, reads, loads, Except.mapError, bind, Except.bind]
  | assignments reads loads assigns =>
      simp [outcome_produce, outcome_applyAssignments, reads, loads, assigns, Except.mapError,
        Except.map, bind, Except.bind]
  | render reads loads assigns renders =>
      simp [outcome_produce, outcome_applyAssignments, reads, loads, assigns, renders,
        Except.mapError, Except.map, bind, Except.bind]

theorem run_of_succeeds {template : Text} {loaded scope : Scope Empty} {text : Text}
    (succeeds : Succeeds options files input template loaded scope text) :
    (run options files input).value = (deliver options files text).value := by
  have produced := succeeds.outcome
  rw [Attempt.outcome] at produced
  simp [run, produced]

theorem run_of_fails {fault : Error} (fails : Fails options files input fault) :
    (run options files input).value = ⟨1, [], some fault, files⟩ := by
  have produced := fails.outcome
  rw [Attempt.outcome] at produced
  simp [run, produced, Outcome.failed]

/-! ## The scope of a run -/

/-- The entries of the document that the options name. -/
def contextEntries (options : Options) (files : φ) : List (String × Value Empty) :=
  match options.context with
  | none => []
  | some path =>
    match readText files path with
    | .ok document => Scope.documentEntries document
    | .error _ => []

theorem eq_setAll_contextEntries {loaded : Scope Empty}
    (loads : (loadContext options (readText files) options.scope).outcome = .ok loaded) :
    loaded = options.scope.setAll (contextEntries options files) := by
  cases named : options.context with
  | none =>
      simp only [loadContext, named, Attempt.outcome_pure, Except.ok.injEq] at loads
      simp [contextEntries, named, ← loads, Scope.setAll]
  | some path =>
      simp only [loadContext, named, outcome_loadDocument] at loads
      cases reads : readText files path with
      | error message => simp [reads, Except.mapError, bind, Except.bind] at loads
      | ok document =>
          simp only [reads, Except.mapError, bind, Except.bind] at loads
          simp only [contextEntries, named, reads]
          exact Scope.eq_setAll_of_addDocument loads

theorem key_scope (options : Options) : options.scope.key = options.key := by
  unfold Options.scope
  split <;> simp_all [Scope.withKey, Scope.empty]

theorem get?_scope (options : Options) (name : String) : options.scope.get? name = none := by
  unfold Options.scope
  split <;> rfl

/-- The scope that is rendered is the one of the options with variables: those of the document, and
the assignments over them. -/
theorem Succeeds.scope {template : Text} {loaded scope : Scope Empty} {text : Text}
    (succeeds : Succeeds options files input template loaded scope text) :
    scope = { options.scope with bindings := scope.bindings } ∧ scope.key = options.key ∧
      ∃ assignments, List.Forall₂ Denotes options.assignments assignments ∧
        ∀ name, scope.get? name =
          (Scope.latest name (assignments.map Assignment.entry)).or
            (Scope.latest name (contextEntries options files)) := by
  have accepted : (loaded.assign options.assignments).value.2 = .ok () := by
    rw [succeeds.assigns]
  rcases Scope.denote_of_assign_ok accepted with ⟨assignments, denote, reached⟩
  have layered : scope = (options.scope.setAll (contextEntries options files)).setAll
      (assignments.map Assignment.entry) := by
    rw [succeeds.assigns, eq_setAll_contextEntries succeeds.loads] at reached
    exact reached
  -- Both layers are entries, so the other parts of the scope are those it was made with.
  have shape : scope = { options.scope with bindings := scope.bindings } := by
    rw [layered, ← Scope.setAll_append]
    exact Scope.setAll_eq _ _
  refine ⟨shape, ?_, assignments, denote, ?_⟩
  · rw [shape]
    exact key_scope options
  · intro name
    rw [layered, Scope.get?_setAll, Scope.get?_setAll, get?_scope, Option.or_none]

end Stages

/-! ## Runs -/

/-- A run in which a stage fails has no effect but its exit code and its error, which is that of
the first such stage. If none fails, the rendered text is printed, or it becomes the content of the
output and of no other file. -/
theorem run_effects [LawfulFileSystem φ] (options : Options) (files : φ) (input : ByteArray) :
    let outcome := (run options files input).value
    (∀ template loaded scope text, Succeeds options files input template loaded scope text →
      (scope = { options.scope with bindings := scope.bindings } ∧ scope.key = options.key ∧
        ∃ assignments, List.Forall₂ Denotes options.assignments assignments ∧
          ∀ name, scope.get? name =
            (Scope.latest name (assignments.map Assignment.entry)).or
              (Scope.latest name (contextEntries options files))) ∧
      (options.output = none → outcome = ⟨0, text, none, files⟩) ∧
      ∀ path written, options.output = some path →
        FileSystem.write files path (String.ofList text).toUTF8 = (written, .ok ()) →
          outcome = ⟨0, [], none, written⟩ ∧
          ∃ file, LawfulFileSystem.file? files path = some file ∧
            LawfulFileSystem.content? written file = some (String.ofList text).toUTF8 ∧
            ∀ other, other ≠ file →
              LawfulFileSystem.content? written other = LawfulFileSystem.content? files other) ∧
      (∀ fault, Fails options files input fault → outcome = ⟨1, [], some fault, files⟩) ∧
      ((∃ template loaded scope text, Succeeds options files input template loaded scope text) ∨
        ∃ fault, Fails options files input fault) := by
  intro outcome
  refine ⟨?_, fun fault fails => run_of_fails fails, succeeds_or_fails options files input⟩
  intro template loaded scope text succeeds
  have delivered : outcome = (deliver options files text).value := run_of_succeeds succeeds
  refine ⟨succeeds.scope, ?_, ?_⟩
  · intro printed
    simp [delivered, deliver, printed]
  · intro path written named done
    refine ⟨?_, LawfulFileSystem.write_ok done⟩
    rw [delivered, deliver, named]
    simp only [done]
    rfl

/-- A template of two variables. -/
def greeting : Text :=
  "$\x7bContext.a\x7d$\x7bContext.b\x7d".toList

theorem resolveSpan_variable (registry : Registry Empty) {scope : Scope Empty} (name : Path.Name)
    {value : Value Empty} (bound : scope.get? (String.ofList name.text) = some value) :
    Interpolation.resolveSpan registry scope (.chain (Expression.dotted [name]) []) =
      pure value.display := by
  have resolved : Expression.resolve scope (Expression.dotted [name]) = pure value := by
    rw [Expression.resolve_dotted_single, Expression.root, bound]
  rw [Interpolation.resolveSpan, resolved]
  rfl

/-- The greeting shows both variables one after the other. -/
theorem render_greeting (renderer : Renderer Empty) {scope : Scope Empty} {first second : String}
    (firstBound : scope.get? "a" = some (.string first))
    (secondBound : scope.get? "b" = some (.string second))
    (plain : '$' ∉ first.toList ++ second.toList) :
    (renderer.render scope greeting).outcome = .ok (first.toList ++ second.toList) := by
  let a : Path.Name := ⟨['a'], by decide, by decide, List.all_eq_true.mp (by decide)⟩
  let b : Path.Name := ⟨['b'], by decide, by decide, List.all_eq_true.mp (by decide)⟩
  have commentFree : ¬Comment.Occurs greeting := Comment.not_occurs_of_notMem (by decide)
  have regionFree : Text.RegionFree greeting := by decide
  have segments : Segment.ofText greeting =
      [.span (Expression.dotted [a]), .span (Expression.dotted [b])] := by
    have whole : greeting = '$' :: '{' :: Expression.dotted [a] ++
        '}' :: ('$' :: '{' :: Expression.dotted [b] ++ '}' :: []) := rfl
    rw [whole, Segment.ofText_enclosed (List.all_eq_true.mp (by decide)),
      Segment.ofText_enclosed (List.all_eq_true.mp (by decide)), Segment.ofText]
  have expanded : Interpolation.resolveText renderer.helpers scope greeting =
      pure (first.toList ++ second.toList) := by
    have firstSpan : Span.ofText (Expression.dotted [a]) = .chain (Expression.dotted [a]) [] := rfl
    have secondSpan : Span.ofText (Expression.dotted [b]) = .chain (Expression.dotted [b]) [] := rfl
    have firstShown := resolveSpan_variable renderer.helpers a firstBound
    have secondShown := resolveSpan_variable renderer.helpers b secondBound
    rw [Interpolation.resolveText, segments, Interpolation.resolveSegments,
      Interpolation.resolveSegments, Interpolation.resolveSegments, firstSpan, secondSpan,
      firstShown, secondShown]
    simp [Value.display]
  rw [Renderer.render, Comment.strip_of_commentFree commentFree, Renderer.renderBlocks,
    Renderer.atDepth, if_neg (Nat.not_lt_zero _),
    Renderer.renderNodes_of_regionFree renderer scope 0 regionFree, expanded, pure_bind]
  exact Interpolation.outcome_resolveText_of_notMem _ _ plain

/-- A document of both variables. -/
def letters : Text :=
  "\x7b\"a\":\"x\",\"b\":\"y\"\x7d".toList

/-- A run that writes to the document it was given, one that prints, and one that fails before it
would write. The text shows a variable of the document and one of the assignments. -/
theorem run_effects_sameFile :
    let files : Directory :=
      ⟨[(["t"], (String.ofList greeting).toUTF8), (["c"], (String.ofList letters).toUTF8)]⟩
    let written : Directory :=
      ⟨[(["t"], (String.ofList greeting).toUTF8), (["c"], (String.ofList ['x', 'z']).toUTF8)]⟩
    let options : Options := ⟨"t", some "c", some "./c", ["B=z"], some "k", 0, false⟩
    let printing : Options := ⟨"t", some "c", none, ["B=z"], some "k", 0, false⟩
    let refused : Options := ⟨"t", some "c", some "./c", ["B=z", "=b"], some "k", 0, false⟩
    (run options files .empty).value = ⟨0, [], none, written⟩ ∧
      (run printing files .empty).value = ⟨0, ['x', 'z'], none, files⟩ ∧
      (run refused files .empty).value =
        ⟨1, [], some (.context (.missingKey "=b")), files⟩ := by
  intro files written options printing refused
  let loaded : Scope Empty :=
    (Scope.withKey "k").setAll [("a", .string "x"), ("b", .string "y")]
  let scope : Scope Empty := loaded.set "B" (.string "z")
  have named : Directory.way? files.isDirectory "t" = some ["t"] ∧
      Directory.way? files.isDirectory "c" = some ["c"] := by
    simp [Directory.way?, Directory.walk, Text.pieces, Directory.isDirectory]
  have template : readText files "t" = .ok greeting := Directory.readText_of_get? named.1 rfl
  have document : readText files "c" = .ok letters := Directory.readText_of_get? named.2 rfl
  have read : Json.readObject? letters = some [("a", .string "x"), ("b", .string "y")] := rfl
  have added : (Scope.withKey "k").addDocument letters = .ok loaded := by
    rw [Scope.addDocument, Scope.takeDocument_of_readObject? read]
    rfl
  have loads : ((Scope.withKey "k").loadDocument "c" (readText files "c")).outcome =
      .ok loaded := by
    rw [outcome_loadDocument, document]
    exact added
  have firstBound : scope.get? "a" = some (.string "x") := rfl
  have secondBound : scope.get? "b" = some (.string "z") := rfl
  have renders (renderer : Renderer Empty) :
      (renderer.render scope greeting).outcome = .ok ['x', 'z'] :=
    render_greeting renderer firstBound secondBound (by decide)
  have writes : Succeeds options files .empty greeting loaded scope ['x', 'z'] :=
    ⟨template, loads, rfl, renders _⟩
  have prints : Succeeds printing files .empty greeting loaded scope ['x', 'z'] :=
    ⟨template, loads, rfl, renders _⟩
  have fails : Fails refused files .empty (.context (.missingKey "=b")) :=
    .assignments template loads rfl
  have done : FileSystem.write files "./c" (String.ofList ['x', 'z']).toUTF8 =
      (written, .ok ()) := by
    simp [FileSystem.write, Directory.write, Directory.way?, Directory.walk, Text.pieces,
      Directory.isFile, Directory.isDirectory, Directory.get?, Directory.place, files, written]
  exact ⟨(((run_effects options files .empty).1 _ _ _ _ writes).2.2 "./c" written rfl done).1,
    ((run_effects printing files .empty).1 _ _ _ _ prints).2.1 rfl,
    (run_effects refused files .empty).2.1 _ fails⟩

end TextTemplate.Command
