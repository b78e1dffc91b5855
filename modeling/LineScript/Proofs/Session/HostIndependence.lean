import LineScript.Proofs.Session.Isolation
import LineScript.Proofs.Session.SameProgress

/-! # Independence of the host

A host that keeps lines in memory and one that writes them to streams are told the same, so scripts
and buttons work alike on both: what the hosts show does not come back to the interpreters. The one
thing that does come back are the windows, which both keep in the same way. As long as nothing but
lines is printed, the output stream holds exactly the lines that are kept in memory.
-/

namespace LineScript

def Notice.isPlain : Notice → Bool
  | .clearOutput => false
  | .opened _ => false
  | .updated _ => false
  | _ => true

namespace Host

theorem windows_receiveAll (host : Host) (notices : List Notice) :
    (host.receiveAll notices).windows = notices.foldl windowsAfter host.windows := by
  induction notices generalizing host with
  | nil => rfl
  | cons notice notices ih => exact ih (host.receive notice)

theorem writtenLines_concat (lines : List Text) (line : Text) :
    writtenLines (lines ++ [line]) = writtenLines lines ++ writtenLines [line] := by
  simp [writtenLines, Text.append_assoc]

/-- The host writes to its output stream what the other keeps in memory. -/
def Writes (kept written : Host) : Prop :=
  ∃ buffer console, kept.surface = .buffer buffer ∧ written.surface = .console console ∧
    console.output = writtenLines buffer.output.toList

theorem Writes.receive {kept written : Host} (h : Writes kept written) {notice : Notice}
    (hplain : notice.isPlain) : Writes (kept.receive notice) (written.receive notice) := by
  obtain ⟨buffer, console, hbuffer, hconsole, houtput⟩ := h
  refine ⟨buffer.receive notice, console.receive (!written.windows.isEmpty) notice, ?_, ?_, ?_⟩
  · simp [Host.receive, hbuffer]
  · simp [Host.receive, hconsole]
  · cases notice with
    | output text =>
        simp only [Console.receive, Buffer.receive, Notice.consoleOutput,
          Array.toList_push, houtput]
        exact (writtenLines_concat _ text).symm
    | debug line =>
        simp [Console.receive, Buffer.receive, Notice.consoleOutput, writtenLines, houtput]
    | clearDebug =>
        simp [Console.receive, Buffer.receive, Notice.consoleOutput, writtenLines, houtput]
    | _ => cases hplain

theorem Writes.receiveAll {kept written : Host} (h : Writes kept written) {notices : List Notice}
    (hplain : ∀ notice ∈ notices, notice.isPlain) :
    Writes (kept.receiveAll notices) (written.receiveAll notices) := by
  induction notices generalizing kept written with
  | nil => exact h
  | cons notice notices ih =>
      exact ih (h.receive (hplain notice List.mem_cons_self))
        fun later hlater => hplain later (List.mem_cons_of_mem notice hlater)

end Host

/-- The button of a window does the same in sessions of the same progress, if they have the same
windows. -/
theorem Exec.match_press_sameProgress {mark : Signal → List Signal} {s₀ t₀ s t : Session}
    {disk : Disk}
    {say : Text → Exec Unit} (comparable : Session.Comparable mark s₀ t₀)
    (hsay : ∀ text, Matches (Session.SameProgress mark s₀ t₀) Eq (say text) (say text))
    (hbalanced : ∀ text, Balanced (say text)) (h : Session.SameProgress mark s₀ t₀ s t)
    (hnesting : t.nesting = s.nesting) (hwindows : t.windows = s.windows) (index : Int) :
    Match (Session.SameProgress mark s₀ t₀) Eq ((engine disk say).press index s)
      ((engine disk say).press index t) := by
  cases hw : Session.windowAt? s.windows index with
  | none =>
      rw [Engine.press_of_none _ hw, Engine.press_of_none _ (by rw [hwindows, hw])]
      exact .error h
  | some w =>
      rw [Engine.press_of_some _ hw, Engine.press_of_some _ (by rw [hwindows, hw])]
      unfold Engine.pressWindow
      cases w.window.button with
      | none => exact .ok rfl h
      | some button =>
          refine (match_execute_sameProgress comparable hsay hbalanced h hnesting w.owner
            button.statement
            w.base).bind ?_
          intro _ _ s' t' _ _ _ hR
          exact .ok rfl hR

namespace Session

/-- The windows of a host come from those that it had and from what it was told since. -/
theorem Told.windows_eq {s t : Session} {told : List Notice} (h : Told s t told)
    (hhost : s.host.isSome) : t.windows = told.foldl Host.windowsAfter s.windows := by
  obtain ⟨host, hs⟩ := Option.isSome_iff_exists.1 hhost
  have hwindows := congrArg (Option.map (·.2)) h.host
  simp only [hs, Option.map_map, Option.map_some] at hwindows
  calc t.windows = (host.receiveAll told).windows := congrArg (·.getD #[]) hwindows
    _ = told.foldl Host.windowsAfter host.windows := Host.windows_receiveAll _ _
    _ = told.foldl Host.windowsAfter s.windows := by simp [windows, hs]

def fresh (config : Config) (surface : Surface) : Session :=
  { host := some { surface }, interpreters := #[{ config }] }

def pressAll (s : Session) (disk : Disk) : List Int → List (Except Fault Bool) × Session
  | [] => ([], s)
  | index :: rest =>
    let pressed := s.press disk index
    let later := pressed.2.pressAll disk rest
    (pressed.1 :: later.1, later.2)

theorem reactions_press {s : Session} (disk : Disk) (index : Int) (hplain : s.reactions = []) :
    (s.press disk index).2.reactions = [] := by
  change (s.operate disk (.press index)).reactions = []
  cases hid : (Operation.press index).interpreter? s with
  | none =>
      rcases operate_of_none disk hid with ⟨config, hadded⟩ | hsame
      · rw [hadded]
        exact hplain
      · rw [hsame, hplain]
  | some id => rw [(writesFor_operate hplain hid).served.reactions, hplain]

/-- In sessions that were new with one host each, the same was done, and came to the same apart from
what the hosts show. -/
structure Beside (config : Config) (surface surface' : Surface) (s t : Session) : Prop where
  progress : SameProgress (fun signal => [signal]) (fresh config surface)
    (fresh config surface') s t
  nesting : t.nesting = s.nesting
  plain : s.reactions = []
  plain' : t.reactions = []
  told : Told (fresh config surface) s s.notices
  told' : Told (fresh config surface') t t.notices

section Beside

variable {config : Config} {surface surface' : Surface} {s t : Session}

theorem Beside.start (config : Config) (surface surface' : Surface) :
    Beside config surface surface' (fresh config surface) (fresh config surface') where
  progress := .refl rfl
  nesting := rfl
  plain := rfl
  plain' := rfl
  told := .of_display rfl
  told' := .of_display rfl

theorem comparable_fresh (config : Config) (surface surface' : Surface) :
    Comparable (fun signal => [signal]) (fresh config surface) (fresh config surface') :=
  .of_settings rfl

theorem Beside.signals_eq (h : Beside config surface surface' s t) : t.signals = s.signals :=
  h.progress.signals_eq rfl

theorem windows_of_told (h : Told (fresh config surface) s s.notices) :
    s.windows = s.notices.foldl Host.windowsAfter #[] :=
  h.windows_eq rfl

theorem Beside.windows_eq (h : Beside config surface surface' s t) : t.windows = s.windows := by
  rw [windows_of_told h.told, windows_of_told h.told', notices_congr h.signals_eq]

theorem Beside.after {α : Type} {x : Exec α} (h : Beside config surface surface' s t)
    (hmatch : Exec.Match
      (SameProgress (fun signal => [signal]) (fresh config surface) (fresh config surface')) Eq
      (x s) (x t))
    (hbalanced : Exec.Balanced x) (htold : Exec.Within (fun s t => ∃ told, Told s t told) x)
    (hplain : (x s).2.reactions = []) (hplain' : (x t).2.reactions = []) :
    Beside config surface surface' (x s).2 (x t).2 where
  progress := hmatch.sessions
  nesting := by
    rw [nesting_eq_of_books (hbalanced s), nesting_eq_of_books (hbalanced t), h.nesting]
  plain := hplain
  plain' := hplain'
  told := by
    obtain ⟨told, hs⟩ := htold s
    exact .of_notices ⟨_, h.told.trans hs⟩ rfl
  told' := by
    obtain ⟨told, ht⟩ := htold t
    exact .of_notices ⟨_, h.told'.trans ht⟩ rfl

theorem Beside.run (h : Beside config surface surface' s t) (disk : Disk) (id : Nat)
    (source : Text) (base : Path) (file : Option Text) :
    (t.run disk id source base file).1 = (s.run disk id source base file).1 ∧
      Beside config surface surface' (s.run disk id source base file).2
        (t.run disk id source base file).2 := by
  have comparable := comparable_fresh config surface surface'
  have hbalanced := Exec.within_say disk books_law 0
  have hreactions := reactions_run disk id source base file h.plain
  have hreactions' := reactions_run disk id source base file h.plain'
  rw [run_plain disk id source base file h.plain] at hreactions ⊢
  rw [run_plain disk id source base file h.plain'] at hreactions' ⊢
  have hmatch : Exec.Match (SameProgress _ _ _) Eq
    (Exec.run disk (Exec.say disk 0) id source base file s)
      (Exec.run disk (Exec.say disk 0) id source base file t) :=
    Exec.match_run_sameProgress comparable
      (Exec.matches_say (sameProgress_coupling comparable) disk)
      hbalanced h.progress h.nesting id source base file
  exact ⟨hmatch.result_eq, h.after hmatch
    (Exec.within_run disk books_law hbalanced id source base file)
    (Exec.within_run disk told_law (Exec.within_say disk told_law 0) id source base file)
    hreactions hreactions'⟩

theorem Beside.press (h : Beside config surface surface' s t) (disk : Disk) (index : Int) :
    (t.press disk index).1 = (s.press disk index).1 ∧
      Beside config surface surface' (s.press disk index).2 (t.press disk index).2 := by
  have comparable := comparable_fresh config surface surface'
  have hbalanced := Exec.within_say disk books_law 0
  have hreactions := reactions_press disk index h.plain
  have hreactions' := reactions_press disk index h.plain'
  have hread : ∀ u : Session, u.reactions = [] →
      u.press disk index = (Exec.engine disk (Exec.say disk 0)).press index u :=
    fun _ hplain => perform_plain disk _ hplain
  rw [hread s h.plain] at hreactions ⊢
  rw [hread t h.plain'] at hreactions' ⊢
  have hmatch : Exec.Match (SameProgress _ _ _) Eq
      ((Exec.engine disk (Exec.say disk 0)).press index s)
      ((Exec.engine disk (Exec.say disk 0)).press index t) :=
    Exec.match_press_sameProgress comparable
      (Exec.matches_say (sameProgress_coupling comparable) disk)
      hbalanced h.progress h.nesting h.windows_eq index
  have htelling := Exec.respects_engine disk told_law (Exec.within_say disk told_law 0)
  exact ⟨hmatch.result_eq, h.after hmatch
    ((Exec.respects_engine disk books_law hbalanced).press books_law index)
    (htelling.press told_law index) hreactions hreactions'⟩

theorem Beside.pressAll (h : Beside config surface surface' s t) (disk : Disk)
    (presses : List Int) :
    (t.pressAll disk presses).1 = (s.pressAll disk presses).1 ∧
      Beside config surface surface' (s.pressAll disk presses).2 (t.pressAll disk presses).2 := by
  induction presses generalizing s t with
  | nil => exact ⟨rfl, h⟩
  | cons index presses ih =>
      obtain ⟨hresult, hpressed⟩ := h.press disk index
      obtain ⟨hresults, hlater⟩ := ih hpressed
      refine ⟨?_, hlater⟩
      simp only [Session.pressAll, hresult, hresults]

end Beside

end Session

end LineScript
