import LineScript.Proofs.Memory.Account
import LineScript.Proofs.Session.Evaluation
import LineScript.Proofs.Session.Transcript

/-! # Re-entrancy

Executions nest, and an application may start an operation while another one is going on. The depth
of an interpreter, the number of its unfinished runs and the host's stack of executing interpreters
are saved and put back by each of them. The main result is that every operation puts all three back,
from any session and also if a fault breaks it off somewhere inside. So between operations nothing
is executing, and the next run starts from the top.
-/

namespace LineScript

namespace Session

/-- In `t` the bookkeeping of nested executions is as it was in `s`. -/
structure Restored (s t : Session) : Prop where
  depth : ∀ id, (t.interpreter id).depth = (s.interpreter id).depth
  activeRuns : ∀ id, (t.interpreter id).activeRuns = (s.interpreter id).activeRuns
  executing : t.host.map (·.executing) = s.host.map (·.executing)

theorem Restored.of_books {s t : Session} (h : t.books = s.books) : Restored s t := by
  refine ⟨?_, ?_, executing_congr h⟩
  · intro id
    exact congrArg (·.2.1) (interpreter_books_congr h id)
  · intro id
    exact congrArg (·.2.2) (interpreter_books_congr h id)

theorem interpreter_addInterpreter (s : Session) (config : Config) (id : Nat) :
    (s.addInterpreter config).interpreter id =
      if id = s.interpreters.size then { config } else s.interpreter id := by
  unfold interpreter addInterpreter
  rw [Array.getElem?_push]
  split <;> rfl

/-- Nothing is executing. -/
structure Idle (s : Session) : Prop where
  depth : ∀ id, (s.interpreter id).depth = 0
  activeRuns : ∀ id, (s.interpreter id).activeRuns = 0
  executing : ∀ stack, s.host.map (·.executing) = some stack → stack = []

namespace Idle

variable {s t : Session}

theorem of_restored (h : Restored s t) (hs : Idle s) : Idle t := by
  refine ⟨?_, ?_, ?_⟩
  · intro id
    rw [h.depth, hs.depth]
  · intro id
    rw [h.activeRuns, hs.activeRuns]
  · intro stack hstack
    exact hs.executing stack (by rw [← h.executing, hstack])

theorem addInterpreter (config : Config) (hs : Idle s) : Idle (s.addInterpreter config) := by
  have hi : ∀ id, ((s.addInterpreter config).interpreter id).depth = 0 ∧
      ((s.addInterpreter config).interpreter id).activeRuns = 0 := by
    intro id
    rw [interpreter_addInterpreter]
    split
    · exact ⟨rfl, rfl⟩
    · exact ⟨hs.depth id, hs.activeRuns id⟩
  exact ⟨fun id => (hi id).1, fun id => (hi id).2, hs.executing⟩

theorem reachable (h : Reachable s) : Idle s := by
  refine books_law.reachable (P := Idle) ?_ ?_ ?_ ?_ h
  · intro s t hbooks hs
    exact of_restored (.of_books hbooks) hs
  · intro surface reactions
    refine ⟨fun _ => rfl, fun _ => rfl, ?_⟩
    intro stack hstack
    cases surface with
    | none => cases hstack
    | some surface => exact (Option.some.inj hstack).symm
  · intro s config hs
    exact hs.addInterpreter config
  · intro s hs
    refine ⟨hs.depth, hs.activeRuns, ?_⟩
    intro stack hstack
    cases hstack

theorem activeInterpreter_eq (hs : Idle s) : s.activeInterpreter = 0 := by
  unfold activeInterpreter
  cases hhost : s.host with
  | none => rfl
  | some host =>
      have hstack : host.executing = [] := hs.executing _ (by rw [hhost]; rfl)
      simp [hstack]

end Idle

end Session

namespace Exec

open Session

/-- The first frame that a run of an idle interpreter enters lies at the top. -/
theorem run_enters_top (disk : Disk) {say : Text → Exec Unit}
    (hsay : ∀ text, Within (Adds fun _ => True) (say text)) {s : Session} {id : Nat}
    (hidle : (s.interpreter id).activeRuns = 0) (source : Text) (base : Path)
    (file : Option Text) :
    ∃ first rest,
      (run disk say id source base file s).2.transcript.toList =
        s.transcript.toList ++ first ++ .entered id { base } :: rest ∧
      ∀ event ∈ first, event.isBound = false := by
  obtain ⟨script, t, hp, hc, hframe⟩ := prepare_apply id source base file s
  rw [if_pos hidle] at hframe
  obtain ⟨first, hfirst, hbound⟩ := hc.adds
  let runner := lines disk say (2 * (s.interpreter id).config.depthLimit.toNat)
  have hrunner : ∀ id frame ls, Within (Adds fun _ => True) (runner id frame ls) :=
    within_lines disk adds_law hsay _
  have hgrown := within_each adds_law (within_executeLine disk adds_law hsay hrunner id { base })
    script.statements ((t.beginRun id).enter id { base })
  have hrun : run disk say id source base file s =
      runWith (activation disk say runner) id source base file s := rfl
  simp only [hrun, runWith, bind_apply, hp, ensuring, activation_apply, hframe]
  cases hx : each (executeLine disk say runner id { base }) script.statements
      ((t.beginRun id).enter id { base }) with
  | mk result u =>
      rw [hx] at hgrown
      obtain ⟨later, hlater, -⟩ := hgrown
      rw [adds_enter] at hlater
      have hleft : ∀ depth, (u.leave id depth).transcript.toList =
          s.transcript.toList ++ first ++ .entered id { base } :: (later ++ [.left id]) := by
        intro depth
        rw [adds_leave, hlater]
        change t.transcript.toList ++ _ ++ later ++ _ = _
        rw [hfirst]
        simp
      refine ⟨first, later ++ [.left id], ?_, hbound⟩
      cases result with
      | ok a => exact hleft _
      | error fault => exact hleft _

end Exec

open Session in
/-- Every operation leaves the depths of the interpreters, the numbers of their unfinished runs and
the host's stack of executing interpreters as they were, from whatever session it starts and whether
it returns or breaks off. So after any operations nothing is executing, the host's own interpreter
is the one to act, and the first frame that the next run enters lies at the top. -/
theorem operations_restore_bookkeeping (s : Session) (disk : Disk) :
    (∀ id source base file, s.Restored (s.run disk id source base file).2) ∧
    (∀ id text base, s.Restored (s.execute disk id text base).2) ∧
    (∀ id name arguments frame, s.Restored (s.call disk id name arguments frame).2) ∧
    (∀ index, s.Restored (s.press disk index).2) ∧
    (∀ w, s.Restored (s.pressWindow disk w).2) ∧
    (∀ codec path, s.Restored (s.runFile disk codec path).2) ∧
    (Reachable s → s.Idle ∧ s.activeInterpreter = 0 ∧
      ∀ id source base file, ∃ first rest,
        (s.run disk id source base file).2.transcript.toList =
          s.transcript.toList ++ first ++ .entered id { base, depth := 0 } :: rest ∧
        ∀ event ∈ first, event.isBound = false) := by
  have hsay := Exec.within_say disk books_law s.reactions.length
  have hengine := Exec.respects_engine disk books_law hsay
  refine ⟨?_, ?_, ?_, ?_, ?_, ?_, ?_⟩
  · intro id source base file
    exact .of_books (Exec.within_run disk books_law hsay id source base file s)
  · intro id text base
    exact .of_books (Exec.within_execute disk books_law hsay id text base s)
  · intro id name arguments frame
    exact .of_books (Exec.within_call disk books_law hsay id name arguments frame s)
  · intro index
    exact .of_books (hengine.press books_law index s)
  · intro w
    exact .of_books (hengine.pressWindow books_law w s)
  · intro codec path
    exact .of_books (hengine.runFile books_law disk hsay codec path s)
  · intro hs
    have hidle := Idle.reachable hs
    refine ⟨hidle, hidle.activeInterpreter_eq, ?_⟩
    intro id source base file
    exact Exec.run_enters_top disk (Exec.within_say disk adds_law _) (hidle.activeRuns id) source
      base file

open Session in
/-- A fault two levels down, in a function that an external script calls, leaves nothing behind: the
session is idle, and another run starts from the top. -/
theorem bookkeeping_restored_after_fault :
    let disk : Disk := { Disk.blank with read := fun _ => .ok "call f".toUTF8.toList }
    let s := Session.addInterpreter { host := some { surface := .buffer {} } } {}
    let out := s.run disk 0 "function f \x7b\n@EXTERNAL RUN \x00\n\x7d\n@EXTERNAL RUN a" {} none
    (∃ fault, out.1 = .error fault) ∧ s.Restored out.2 ∧ Reachable out.2 ∧ out.2.Idle ∧
      out.2.activeInterpreter = 0 := by
  intro disk s out
  have hs : Reachable s := .addInterpreter (.fresh (some (.buffer {})) []) {}
  have hout : Reachable out.2 := hs.run disk 0 _ {} none
  have hfault : out.1.toOption.isNone := by decide +kernel
  obtain ⟨hrun, -, -, -, -, -, -⟩ := operations_restore_bookkeeping s disk
  obtain ⟨-, -, -, -, -, -, hafter⟩ := operations_restore_bookkeeping out.2 disk
  obtain ⟨hidle, hactive, -⟩ := hafter hout
  refine ⟨?_, hrun 0 _ {} none, hout, hidle, hactive⟩
  cases hresult : out.1 with
  | error fault => exact ⟨fault, rfl⟩
  | ok result => simp [hresult, Except.toOption] at hfault

end LineScript
