import LineScript.Proofs.Session.Isolation
import LineScript.Proofs.Session.ScriptRun

/-! # The directory that scripts work in

An external script is looked for in the directory of the run that asks for it, also from inside the
functions that the run calls, wherever these were defined. Its own run works in the directory in
which it was found. The button of a window works in the directory of the run that opened the window,
in every session that comes about later. All this holds with any number of reactions to printed
lines.
-/

namespace LineScript

open Exec Session

/-! ## Sessions that come about later -/

namespace Session

/-- The session comes about from the other one, in the middle of an operation or after any number of
operations. -/
inductive Ensues (s : Session) : Session → Prop
  | refl : Ensues s s
  | change {t u : Session} (h : Ensues s t) (hchange : Change t u) : Ensues s u
  | enter {t : Session} (h : Ensues s t) (id : Nat) (frame : Frame) : Ensues s (t.enter id frame)
  | leave {t : Session} (h : Ensues s t) (id : Nat) (depth : Int) : Ensues s (t.leave id depth)
  | beginRun {t : Session} (h : Ensues s t) (id : Nat) : Ensues s (t.beginRun id)
  | endRun {t : Session} (h : Ensues s t) (id : Nat) : Ensues s (t.endRun id)
  | add {t : Session} (h : Ensues s t) (config : Config) : Ensues s (t.addInterpreter config)

namespace Ensues

variable {s t u : Session}

theorem trans (hst : s.Ensues t) (htu : t.Ensues u) : s.Ensues u := by
  induction htu with
  | refl => exact hst
  | change _ hchange ih => exact ih.change hchange
  | enter _ id frame ih => exact ih.enter id frame
  | leave _ id depth ih => exact ih.leave id depth
  | beginRun _ id ih => exact ih.beginRun id
  | endRun _ id ih => exact ih.endRun id
  | add _ config ih => exact ih.add config

theorem law : Law Ensues where
  refl _ := .refl
  trans := trans
  change hchange := .change .refl hchange
  execution {s _ id frame} h := ((Ensues.enter (.refl (s := s)) id frame).trans h).leave id _
  run {s _ id} h := ((Ensues.beginRun (.refl (s := s)) id).trans h).endRun id

theorem operate (s : Session) (disk : Disk) (operation : Operation) :
    s.Ensues (s.operate disk operation) :=
  law.operate (fun _ config => .add .refl config) s disk operation

theorem run (s : Session) (disk : Disk) (id : Nat) (source : Text) (base : Path)
    (file : Option Text) : s.Ensues (s.run disk id source base file).2 :=
  operate s disk (.run id source base file)

end Ensues

end Session

/-! ## Windows -/

/-- The windows work alike: they differ in what they show at most. -/
structure OpenWindow.Resembles (w w' : OpenWindow) : Prop where
  owner : w.owner = w'.owner
  base : w.base = w'.base
  button : w.window.button = w'.window.button

namespace OpenWindow.Resembles

theorem refl (w : OpenWindow) : w.Resembles w :=
  ⟨rfl, rfl, rfl⟩

theorem trans {w w' w'' : OpenWindow} (h : w.Resembles w') (h' : w'.Resembles w'') :
    w.Resembles w'' :=
  ⟨h.owner.trans h'.owner, h.base.trans h'.base, h.button.trans h'.button⟩

end OpenWindow.Resembles

/-- All windows are still there, at their places. -/
def Host.Keeps (windows later : Array OpenWindow) : Prop :=
  ∀ (k : Nat) (w : OpenWindow), windows[k]? = some w →
    ∃ w', later[k]? = some w' ∧ w'.Resembles w

namespace Host

theorem keeps_windowsAfter (windows : Array OpenWindow) (notice : Notice) :
    Keeps windows (windowsAfter windows notice) := by
  intro k w hw
  cases notice with
  | opened new =>
      have hk := (Array.getElem?_eq_some_iff.1 hw).1
      exact ⟨w, by simp [windowsAfter, Array.getElem?_push, Nat.ne_of_lt hk, hw], .refl w⟩
  | updated text =>
      by_cases hlast : windows.size - 1 = k
      · refine ⟨w.extend text, ?_, rfl, rfl, rfl⟩
        simp [windowsAfter, Array.getElem?_modify, hlast, hw]
      · exact ⟨w, by simp [windowsAfter, Array.getElem?_modify, hlast, hw], .refl w⟩
  | _ => exact ⟨w, hw, .refl w⟩

end Host

namespace Session

theorem windows_eq_of_content {s t : Session} (h : t.content = s.content) :
    t.windows = s.windows := by
  have hhost : t.host.map (·.windows) = s.host.map (·.windows) := by
    have hcontent := congrArg (fun content => content.host.map (·.2)) h
    simpa [content, Host.content, Function.comp_def] using hcontent
  rw [windows, windows, hhost]

theorem windows_tell (s : Session) (notice : Notice) :
    (s.tell notice).windows =
      if s.host.isSome then Host.windowsAfter s.windows notice else s.windows := by
  unfold tell
  cases hhost : s.host with
  | none => simp
  | some host => simp [windows, Host.receive, hhost]

theorem windows_tell_debug (s : Session) (line : DebugLine) :
    (s.tell (.debug line)).windows = s.windows :=
  (windows_tell s (.debug line)).trans (ite_self _)

/-- Windows are never closed, and their buttons stay as they are. -/
theorem Ensues.keeps {s t : Session} (h : s.Ensues t) : Host.Keeps s.windows t.windows := by
  induction h with
  | refl => exact fun k w hw => ⟨w, hw, .refl w⟩
  | @change t u _ hchange ih =>
      have hstep : Host.Keeps t.windows u.windows := by
        cases hchange with
        | told notice =>
            rw [windows_tell]
            split
            · exact Host.keeps_windowsAfter _ notice
            · exact fun k w hw => ⟨w, hw, .refl w⟩
        | _ => exact fun k w hw => ⟨w, hw, .refl w⟩
      intro k w hw
      obtain ⟨w', hw', hresembles⟩ := ih k w hw
      obtain ⟨w'', hw'', hresembles'⟩ := hstep k w' hw'
      exact ⟨w'', hw'', hresembles'.trans hresembles⟩
  | enter _ id frame ih =>
      rw [windows_eq_of_content (content_enter _ id frame)]
      exact ih
  | leave _ id depth ih =>
      rw [windows_eq_of_content (content_leave _ id depth)]
      exact ih
  | beginRun _ id ih => exact ih
  | endRun _ id ih => exact ih
  | add _ config ih => exact ih

end Session

/-! ## Scripts that are prepared -/

/-- A script that was prepared for its run: from `start` on its windows were opened, and at `begun`
its statements are to be executed. -/
structure Preparation where
  interpreter : Nat
  source : Text
  base : Path
  file : Option Text
  start : Session
  script : Prepared
  begun : Session
  prepared : prepare interpreter source base file start = (.ok script, begun)

namespace Exec

theorem windows_takeSegment (s : Session) (id : Nat) (base : Path) (segment : Segment) :
    ∃ opened t, takeSegment id base segment s = (.ok opened, t) ∧
      t.host.isSome = s.host.isSome ∧
      t.windows.toList = s.windows.toList ++ (if s.host.isSome then opened.toList else []) ∧
      ∀ w ∈ opened, w.owner = id ∧ w.base = base := by
  have hopen : ∀ body, ∃ w t, openWindow id base body s = (.ok w, t) ∧
      t.host.isSome = s.host.isSome ∧
      t.windows.toList = s.windows.toList ++ (if s.host.isSome then [w] else []) ∧
      w.owner = id ∧ w.base = base := by
    intro body
    refine ⟨_, _, rfl, isSome_host_tell _ _, ?_, rfl, rfl⟩
    rw [windows_tell, apply_ite Array.toList]
    change (if s.host.isSome then (s.windows.push _).toList else s.windows.toList) = _
    cases s.host.isSome <;> simp
  cases segment with
  | statement line => exact ⟨none, s, rfl, rfl, by simp, by simp⟩
  | function header name body closing =>
      obtain ⟨t, ht, hhost⟩ : ∃ t,
          addFunction id { name, body, location := header.location } s = (.ok (), t) ∧
            t.host = s.host := by
        simp only [addFunction, bind_apply, Exec.interpreter]
        split <;> exact ⟨_, rfl, rfl⟩
      exact ⟨none, t, by simp only [takeSegment, bind_apply, ht]; rfl, by rw [hhost],
        by simp [windows, hhost], by simp⟩
  | window header body closing =>
      obtain ⟨w, t, ht, hhost, hwindows, hw⟩ := hopen (body.map (·.text))
      exact ⟨some w, t, by simp only [takeSegment, bind_apply, ht]; rfl, hhost, hwindows,
        by simpa using hw⟩
  | inlineWindow header body =>
      obtain ⟨w, t, ht, hhost, hwindows, hw⟩ := hopen body
      exact ⟨some w, t, by simp only [takeSegment, bind_apply, ht]; rfl, hhost, hwindows,
        by simpa using hw⟩
  | rejected header problem =>
      refine ⟨none, _, rfl, isSome_host_tell _ _, ?_, by simp⟩
      rw [Option.toList_none, ite_self, List.append_nil]
      exact congrArg Array.toList (windows_tell_debug _ _)

theorem windows_takeSegments (s : Session) (id : Nat) (base : Path) (segments : List Segment) :
    ∃ opened t, takeSegments id base segments s = (.ok opened, t) ∧
      t.windows.toList = s.windows.toList ++ (if s.host.isSome then opened else []) ∧
      ∀ w ∈ opened, w.owner = id ∧ w.base = base := by
  induction segments generalizing s with
  | nil => exact ⟨[], s, rfl, by simp, by simp⟩
  | cons segment segments ih =>
      obtain ⟨first, t, ht, hhost, hwindows, hfirst⟩ := windows_takeSegment s id base segment
      obtain ⟨rest, u, hu, hwindows', hrest⟩ := ih t
      refine ⟨first.toList ++ rest, u, by simp only [takeSegments, bind_apply, ht, hu]; rfl, ?_, ?_⟩
      · rw [hwindows', hwindows, hhost]
        cases s.host.isSome <;> simp
      · intro w hw
        rcases List.mem_append.1 hw with hw | hw
        · exact hfirst w (by simpa using hw)
        · exact hrest w hw

end Exec

namespace Preparation

/-- The windows of a script are the newest when its statements are to be executed, and they work in
its directory. -/
theorem windows_begun (a : Preparation) :
    a.begun.windows.toList =
        a.start.windows.toList ++ (if a.start.host.isSome then a.script.windows else []) ∧
      ∀ w ∈ a.script.windows, w.owner = a.interpreter ∧ w.base = a.base := by
  obtain ⟨opened, t, ht, hwindows, hopened⟩ := windows_takeSegments a.start a.interpreter a.base
    (Segment.ofLines (Line.scan a.source a.file))
  obtain ⟨script, text, hprepared, -⟩ := prepare_taken ht
  obtain ⟨-, hbegun⟩ := Prod.mk.inj (hprepared.symm.trans a.prepared)
  rw [windows_of_prepare ht a.prepared]
  refine ⟨?_, hopened⟩
  rw [← hbegun, ← hwindows]
  exact congrArg Array.toList (windows_tell_debug _ _)

theorem base_frame (a : Preparation) : a.script.frame.base = a.base := by
  obtain ⟨script, t, hp, -, hframe⟩ := prepare_apply a.interpreter a.source a.base a.file a.start
  obtain ⟨hscript, -⟩ := Prod.mk.inj (hp.symm.trans a.prepared)
  rw [← Except.ok.inj hscript, hframe]

def opening (a : Preparation) (path : Text) : Opening :=
  { interpreter := a.interpreter, frame := a.script.frame, lines := a.script.statements
    script := some path }

/-- The script is the external one that the statement at a place has opened. -/
structure OpenedAt (a : Preparation) (disk : Disk) (say : Text → Exec Unit) (p : Place)
    (path : Text) : Prop where
  action : p.action = .external path
  file : a.file = some path
  opened : stepAt disk say p = (.ok (some (a.opening path)), a.begun)

end Preparation

/-! ## Where scripts are looked for -/

/-- The directory of the innermost run, inside activations that are listed from the inside. `base`
is the directory of the run around them all. Calls stay in the directory, and an external script
works in the one in which it is found. -/
def Exec.directory (base : Path) : List Opening → Path
  | [] => base
  | opening :: around =>
    match opening.script with
    | none => directory base around
    | some path => ((directory base around).join (.ofText path)).parent

def Event.path? : Event → Option Path
  | .sought path => some path
  | _ => none

namespace Session

def soughtPaths (s : Session) : List Path :=
  s.transcript.toList.filterMap Event.path?

theorem soughtPaths_record (s : Session) (event : Event) :
    (s.record event).soughtPaths = s.soughtPaths ++ event.path?.toList := by
  simp only [soughtPaths, record, Array.toList_push, List.filterMap_append, List.filterMap_cons,
    List.filterMap_nil]
  cases event.path? <;> rfl

theorem soughtPaths_tell (s : Session) (notice : Notice) :
    (s.tell notice).soughtPaths = s.soughtPaths := by
  unfold tell
  cases s.host with
  | none => rfl
  | some host => exact (soughtPaths_record s (.told notice)).trans (List.append_nil _)

theorem Adds.soughtPaths {P : Event → Prop} {s t : Session} (h : Adds P s t) :
    s.soughtPaths <+: t.soughtPaths := by
  obtain ⟨events, hevents, -⟩ := h
  unfold Session.soughtPaths
  rw [hevents, List.filterMap_append]
  exact List.prefix_append _ _

end Session

theorem Place.soughtPaths_acted (p : Place) : p.acted.soughtPaths = p.session.soughtPaths := by
  have htraced : (p.session.traced p.interpreter p.line).soughtPaths = p.session.soughtPaths := by
    unfold traced
    split
    · exact soughtPaths_tell _ _
    · rfl
  rw [← htraced]
  exact (soughtPaths_record _ _).trans (List.append_nil _)

/-- The statement at a place works in a directory. An external script that it asks for is looked for
there, and what it opens is the script that was read there, to be run in the directory in which it
was found. -/
structure Place.WorksIn (disk : Disk) (say : Text → Exec Unit) (p : Place) (here : Path) :
    Prop where
  base : p.frame.base = here
  sought : ∀ path, p.action = .external path → p.session.host.isSome →
    p.session.soughtPaths ++ [here.join (.ofText path)] <+: (stepAt disk say p).2.soughtPaths
  opened : ∀ path opening t, p.action = .external path →
    stepAt disk say p = (.ok (some opening), t) →
      ∃ a : Preparation, a.OpenedAt disk say p path ∧ opening = a.opening path ∧ t = a.begun ∧
        disk.readScript (p.session.interpreter a.interpreter).config.codec
          (here.join (.ofText path)) = .ok (.ok a.source)
  directory : ∀ path (a : Preparation), a.OpenedAt disk say p path →
    a.base = (here.join (.ofText path)).parent

namespace Exec

variable {disk : Disk} {say : Text → Exec Unit} {s t : Session} {path : Text} {base : Path}
  {opening : Opening}

theorem openScript_prepares (h : openScript disk say path base s = (.ok (some opening), t)) :
    ∃ a : Preparation, opening = a.opening path ∧ t = a.begun ∧ a.file = some path ∧
      a.base = (base.join (.ofText path)).parent ∧
      disk.readScript (s.interpreter a.interpreter).config.codec (base.join (.ofText path)) =
        .ok (.ok a.source) := by
  unfold openScript at h
  simp only [bind_apply, get] at h
  split at h
  · obtain ⟨_, t₁, -, h⟩ := bind_ok (x := record _) h
    obtain ⟨text, t₂, hread, h⟩ := bind_ok h
    cases text with
    | error reason =>
        obtain ⟨_, t₃, -, h⟩ := bind_ok h
        obtain ⟨_, t₄, -, h⟩ := bind_ok h
        obtain ⟨_, t₅, -, h⟩ := bind_ok h
        obtain ⟨_, t₆, -, h⟩ := bind_ok h
        cases h
    | ok source =>
        obtain ⟨_, t₃, -, h⟩ := bind_ok h
        obtain ⟨script, u, hp, h⟩ := bind_ok h
        cases h
        refine ⟨⟨s.activeInterpreter, source, _, some path, t₃, script, t, hp⟩, rfl, rfl, rfl, rfl,
          ?_⟩
        cases hresult : disk.readScript (s.interpreter s.activeInterpreter).config.codec
            (base.join (.ofText path)) with
        | error fault =>
            rw [hresult] at hread
            cases hread
        | ok text =>
            rw [hresult] at hread
            cases hread
            rfl
  · cases h

theorem adds_prepare (id : Nat) (source : Text) (base : Path) (file : Option Text) :
    Within (Adds fun _ => True) (prepare id source base file) := by
  intro s
  obtain ⟨script, t, hp, hc, -⟩ := prepare_apply id source base file s
  have hadds : Adds (fun _ => True) s t := adds_law.changes hc
  rw [hp]
  exact hadds

/-- An external script is looked for before anything else happens. -/
theorem openScript_seeks (hsay : ∀ text, Within (Adds fun _ => True) (say text))
    (hhost : s.host.isSome) :
    s.soughtPaths ++ [base.join (.ofText path)] <+:
      (openScript disk say path base s).2.soughtPaths := by
  have hadds : Adds (fun _ => True) (s.record (.sought (base.join (.ofText path))))
      (openScript disk say path base s).2 := by
    unfold openScript
    simp only [bind_apply, get]
    rw [if_pos hhost]
    refine (within_ofExcept adds_law _).bind adds_law (fun text => ?_) (s.record _)
    cases text with
    | error reason =>
        exact ((calm_log _ _).within adds_law).bind adds_law fun _ =>
          (hsay _).bind adds_law fun _ => (hsay _).bind adds_law fun _ =>
            ((calm_report _ _).within adds_law).bind adds_law fun _ => adds_law.refl
    | ok source =>
        exact (hsay _).bind adds_law fun _ =>
          (adds_prepare _ _ _ _).bind adds_law fun _ => adds_law.refl
  have hlonger := hadds.soughtPaths
  rw [soughtPaths_record] at hlonger
  exact hlonger

variable {around : List Opening} {id : Nat} {frame : Frame} {ls : List Line} {p : Place}

/-- What a statement opens works in the directory of the statement, or in that in which the script
was found. -/
theorem base_of_step {line : Line} (h : step disk say id frame line s = (.ok (some opening), t))
    (hframe : frame.base = directory base around) :
    opening.frame.base = directory base (opening :: around) := by
  rw [step_apply] at h
  rcases perform_some h with ⟨name, arguments, -, hcall⟩ | ⟨path, -, hscript⟩
  · obtain ⟨u, hu, -⟩ := openCall_apply id name arguments frame
      ((s.traced id line).act id frame line (s.actionOf id frame line))
    cases hu.symm.trans hcall
    exact hframe
  · obtain ⟨a, rfl, -, -, hbase, -⟩ := openScript_prepares hscript
    change a.script.frame.base = ((directory base around).join (.ofText path)).parent
    rw [a.base_frame, hbase, hframe]

/-- Every statement works in the directory of the innermost run around it. -/
theorem Reaches.base_eq (h : Reaches disk say around id frame ls s p)
    (hframe : frame.base = directory base around) : p.frame.base = directory base p.around := by
  induction h with
  | here => exact hframe
  | plain _ _ ih => exact ih hframe
  | inside hstep _ ih => exact ih (base_of_step hstep hframe)
  | past _ _ _ _ ih => exact ih hframe

end Exec

theorem Place.worksIn {disk : Disk} {say : Text → Exec Unit} {p : Place} {here : Path}
    (hsay : ∀ text, Within (Adds fun _ => True) (say text)) (hbase : p.frame.base = here) :
    p.WorksIn disk say here := by
  subst hbase
  have hscript : ∀ path, p.action = .external path →
      stepAt disk say p = openScript disk say path p.frame.base p.acted := by
    intro path haction
    rw [stepAt_eq, Place.acted, haction]
    rfl
  refine ⟨rfl, ?_, ?_, ?_⟩
  · intro path haction hhost
    rw [hscript path haction, ← p.soughtPaths_acted]
    rw [← p.isSome_host_acted] at hhost
    exact openScript_seeks hsay hhost
  · intro path opening t haction hopened
    obtain ⟨a, rfl, rfl, hfile, -, hread⟩ :=
      openScript_prepares ((hscript path haction).symm.trans hopened)
    rw [p.config_acted] at hread
    exact ⟨a, ⟨haction, hfile, hopened⟩, rfl, rfl, hread⟩
  · intro path a ha
    obtain ⟨b, hopening, -, -, hbase, -⟩ :=
      openScript_prepares ((hscript path ha.action).symm.trans ha.opened)
    have hframe : a.script.frame = b.script.frame := congrArg Opening.frame hopening
    rw [← a.base_frame, hframe, b.base_frame, hbase]

/-! ## Buttons -/

/-- The statement of the button of a window reaches a place when it is executed. -/
def OpenWindow.Reaches (w : OpenWindow) (disk : Disk) (say : Text → Exec Unit) (s : Session)
    (p : Place) : Prop :=
  ∃ button, w.window.button = some button ∧
    Exec.Reaches disk say [] w.owner { base := w.base } [.ofStatement button.statement]
      (s.enter w.owner { base := w.base }) p

/-- The windows of a script stay where they are in every later session, and whenever one of their
buttons is pressed, its statement works in the directory. -/
def Preparation.Declares (a : Preparation) (here : Path) : Prop :=
  ∀ (k : Nat) (w : OpenWindow), a.script.windows[k]? = some w → ∀ t, a.begun.Ensues t →
    (a.start.host.isSome →
      ∃ w', t.windows[a.start.windows.size + k]? = some w' ∧ w'.Resembles w) ∧
    ∀ (w' : OpenWindow), w'.Resembles w → ∀ disk count p,
      w'.Reaches disk (Exec.say disk count) t p →
        p.WorksIn disk (Exec.say disk count) (Exec.directory here p.around)

theorem Preparation.declares (a : Preparation) : a.Declares a.base := by
  obtain ⟨hbegun, hwindows⟩ := a.windows_begun
  intro k w hw t ht
  obtain ⟨-, hbase⟩ := hwindows w (List.mem_of_getElem? hw)
  refine ⟨fun hhost => ht.keeps _ w ?_, ?_⟩
  · rw [if_pos hhost] at hbegun
    rw [← Array.getElem?_toList, hbegun, ← Array.length_toList,
      List.getElem?_append_right (Nat.le_add_right _ _), Nat.add_sub_cancel_left, hw]
  · rintro w' hresembles disk count p ⟨button, -, hp⟩
    exact Place.worksIn (within_say disk adds_law count)
      (hp.base_eq (hresembles.base.trans hbase))

/-! ## What comes after a statement -/

namespace Exec

variable {disk : Disk} {say : Text → Exec Unit} {visit : Nat → Frame → Prop} {n : Nat}
  {around : List Opening} {id : Nat} {frame : Frame} {ls : List Line} {s t : Session} {p : Place}
  {out : Except Fault Unit × Session}

theorem ensues_complete (hsay : ∀ text, Within Ensues (say text)) {opening : Opening}
    {result ended : Except Fault Unit} {u v : Session}
    (h : complete say (fun _ _ _ _ => (result, u)) opening t = (ended, v)) : u.Ensues v := by
  unfold complete at h
  cases hscript : opening.script with
  | none =>
      rw [hscript] at h
      cases h
      exact .refl
  | some path =>
      simp only [hscript, bind_apply, ensuring] at h
      cases result with
      | error fault =>
          cases h
          exact .endRun .refl _
      | ok _ =>
          have hend : say ("--- End of " ++ path ++ " ---") (u.endRun opening.interpreter) =
            (ended, v) := h
          have hsaid := hsay ("--- End of " ++ path ++ " ---") (u.endRun opening.interpreter)
          rw [hend] at hsaid
          exact (Ensues.endRun .refl _).trans hsaid

/-- After the body of an activation, the rest of an execution leads to later sessions. -/
theorem Executes.ensues_after_body (hsay : ∀ text, Within Ensues (say text)) {line : Line}
    {opening : Opening} (hstep : step disk say id frame line s = (.ok (some opening), t))
    (h : Executes disk say visit n id frame (line :: ls) s out) :
    ∃ result u,
      Executes disk say visit (n + 1) opening.interpreter opening.frame opening.lines
        (t.enter opening.interpreter opening.frame) (result, u) ∧ u.Ensues out.2 := by
  obtain ⟨result, u, ended, v, body, hend, hrest⟩ := h.opened hstep
  have hcompleted := (Ensues.leave .refl _ _).trans (ensues_complete hsay hend)
  refine ⟨result, u, body, hcompleted.trans ?_⟩
  rcases hrest with ⟨-, rest⟩ | ⟨fault, -, rfl⟩
  · exact rest.within Ensues.law hsay
  · exact .refl

/-- The session after a statement leads to the one in which the execution ends. -/
theorem Reaches.ensues {opening : Opening} (hsay : ∀ text, Within Ensues (say text))
    (hp : Reaches disk say around id frame ls s p)
    (hopened : stepAt disk say p = (.ok (some opening), t))
    (h : Executes disk say visit around.length id frame ls s out) : t.Ensues out.2 := by
  induction hp generalizing out with
  | here =>
      obtain ⟨result, u, body, hafter⟩ := h.ensues_after_body hsay hopened
      exact (Ensues.enter .refl _ _).trans ((body.within Ensues.law hsay).trans hafter)
  | plain hstep _ ih => exact ih hopened ((Executes.plain_iff hstep).1 h)
  | inside hstep _ ih =>
      obtain ⟨result, u, body, hafter⟩ := h.ensues_after_body hsay hstep
      exact (ih hopened body).trans hafter
  | past hstep body hend _ ih =>
      obtain ⟨result', u', ended, v', body', hend', hrest⟩ := h.opened hstep
      obtain ⟨rfl, rfl⟩ := Prod.mk.inj (body.unique body')
      obtain ⟨rfl, rfl⟩ := Prod.mk.inj (hend.symm.trans hend')
      rcases hrest with ⟨-, rest⟩ | ⟨fault, hbroken, -⟩
      · exact ih hopened rest
      · cases hbroken

end Exec

/-- Directories of runs. An external script that is asked for anywhere inside a run, at any depth of
calls and wherever the functions were defined, is looked for in the directory of the innermost run
around the statement, and runs in the directory in which it is found. Whichever run opens a window,
the outer one or that of an external script, the window stays in every session that comes about
later, with its button, and whenever the button is pressed, its statement works in the directory of
the run that opened the window. The reactions to printed lines may be any number; in `Session.run`
they are those of the session. -/
theorem external_scripts_resolve_in_directory (s : Session) (disk : Disk) (count id : Nat)
    (source : Text) (base : Path) (file : Option Text) (hid : id < s.interpreters.size)
    (hdepth : (s.interpreter id).activeRuns = 0 ∨ 0 ≤ (s.interpreter id).depth) :
    let say := Exec.say disk count
    let out := Exec.run disk say id source base file s
    (∃ a : Preparation, a.interpreter = id ∧ a.source = source ∧ a.base = base ∧ a.file = file ∧
      a.start = s ∧ a.Declares base ∧ a.begun.Ensues out.2) ∧
    ∀ p, RunReaches disk say id source base file s p →
      let here := Exec.directory base p.around
      p.WorksIn disk say here ∧
      ∀ path (a : Preparation), a.OpenedAt disk say p path →
        a.Declares (here.join (.ofText path)).parent ∧ a.begun.Ensues out.2 := by
  intro say out
  have hensues : ∀ text, Within Ensues (say text) := within_say disk Ensues.law count
  obtain ⟨script, t, result, last, hp, hexecuted, hrun⟩ := run_executes disk
    (within_say disk books_law count) source base file hid hdepth
  have hended : last.Ensues out.2 := by
    have hout : out.2 = (last.leave id (t.interpreter id).depth).endRun id := congrArg (·.2) hrun
    rw [hout]
    exact (Ensues.leave .refl _ _).endRun id
  let root : Preparation := ⟨id, source, base, file, s, script, t, hp⟩
  refine ⟨⟨root, rfl, rfl, rfl, rfl, rfl, root.declares, ?_⟩, ?_⟩
  · exact ((Ensues.enter .refl _ _).trans (hexecuted.within Ensues.law hensues)).trans hended
  · rintro p ⟨script', t', hp', hreached⟩ here
    cases hp.symm.trans hp'
    have hworks : p.WorksIn disk say here :=
      Place.worksIn (within_say disk adds_law count) (hreached.base_eq root.base_frame)
    refine ⟨hworks, fun path a ha => ⟨?_, ?_⟩⟩
    · rw [← hworks.directory path a ha]
      exact a.declares
    · exact (hreached.ensues hensues ha.opened hexecuted).trans hended

/-- A script in `x` defines a function that asks for `b`, and runs `sub/a`, which calls the function
and opens a window whose button asks for `c`. From the function `b` is looked for in `x/sub`. So is
`c` when the button is pressed, although a run in another directory came in between. -/
theorem external_scripts_resolve_in_directory_of_call :
    let disk : Disk :=
      { Disk.blank with
        read := fun path =>
          if path.name = "a" then
            .ok ("call f\n@NEW WINDOW \x7b\n@Content = \x7b\n" ++
              "BUTTON = \"b\" : \x7b@EXTERNAL RUN c\x7d\n\x7d\n\x7d").toUTF8.toList
          else .error .notFound }
    let s : Session := { host := some { surface := .buffer {} }, interpreters := #[{}] }
    let source := "function f \x7b\n@EXTERNAL RUN b\n\x7d\n@EXTERNAL RUN sub/a"
    let base := Path.ofText "x"
    let out := s.run disk 0 source base none
    let later := (out.2.run disk 0 "@EXTERNAL RUN d" (.ofText "y") none).2
    (0 < s.interpreters.size ∧ (s.interpreter 0).activeRuns = 0) ∧
    (∀ p, RunReaches disk (Exec.say disk 0) 0 source base none s p →
      p.WorksIn disk (Exec.say disk 0) (Exec.directory base p.around)) ∧
    out.2.soughtPaths.map (·.text) = (["x/sub/a", "x/sub/b"] : List Text) ∧ out.2.Ensues later ∧
    (later.press disk 0).2.soughtPaths.map (·.text) =
      (["x/sub/a", "x/sub/b", "y/d", "x/sub/c"] : List Text) := by
  intro disk s source base
  have hid : 0 < s.interpreters.size := by decide
  have hidle : (s.interpreter 0).activeRuns = 0 := by decide
  refine ⟨⟨hid, hidle⟩, fun p hp => ?_, by decide +kernel, .run _ disk 0 _ _ none,
    by decide +kernel⟩
  exact ((external_scripts_resolve_in_directory s disk 0 0 source base none hid
    (.inl hidle)).2 p hp).1

end LineScript
