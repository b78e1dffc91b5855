import LineScript.Proofs.Session.Reach

/-! # How a run breaks off

Statements report what is wrong with them and go on. Under UTF-8 only three kinds of statements
break a run off: one that sets a budget with too many digits, one that defines a variable with a
half of a surrogate pair in its value, and one that runs an external script whose path cannot be
handed to the disk, having a null character or such a half in it. The main result is that a run
breaks off exactly if it reaches such a statement, and that nothing of this statement shows but its
trace line.
-/

namespace LineScript

/-! ## Texts in UTF-8 -/

namespace Encoding

def IsUtf8 (encoding : Encoding) : Prop :=
  encoding = .utf8 ∨ encoding = .utf8Marked

theorem encodeRuns_eq_error {codec : String} {mark : List UInt8} {bytes : Char → List UInt8}
    {text : Text} {error : EncodeError} :
    encodeRuns codec mark bytes text = .error error ↔
      EncodeError.firstHalves? codec text.toList = some error := by
  unfold encodeRuns
  cases EncodeError.firstHalves? codec text.toList with
  | none => simp
  | some other => simp

/-- Only halves of surrogate pairs have no bytes. -/
theorem IsUtf8.encode_eq_error {encoding : Encoding} (h : encoding.IsUtf8) {text : Text}
    {error : EncodeError} :
    encoding.encode text = .error error ↔
      EncodeError.firstHalves? "utf-8" text.toList = some error := by
  rcases h with rfl | rfl
  · exact encodeRuns_eq_error
  · exact encodeRuns_eq_error

theorem settled_ne_unmarked (result : Except DecodeError (List Char)) (family : String) :
    settled result ≠ .error (.unmarked family) := by
  intro h
  cases result with
  | ok cs => cases h
  | error error => cases h

theorem IsUtf8.decode_ne_unmarked {encoding : Encoding} (h : encoding.IsUtf8)
    (bytes : List UInt8) (family : String) :
    encoding.decode bytes ≠ .error (.unmarked family) := by
  have hchars : encoding.decodeChars bytes ≠ .error (.unmarked family) := by
    rcases h with rfl | rfl
    · exact settled_ne_unmarked _ family
    · simp only [decodeChars]
      split
      · simp
      · simp
      · simp
      · exact settled_ne_unmarked _ family
      · exact settled_ne_unmarked _ family
  intro hdecode
  unfold decode at hdecode
  cases hfound : encoding.decodeChars bytes with
  | ok cs => simp [hfound, Except.map] at hdecode
  | error failure =>
      rw [hfound] at hdecode
      exact hchars (hfound.trans (congrArg Except.error (Except.error.inj hdecode)))

end Encoding

theorem valueSize_eq_error {encoding : Encoding} (h : encoding.IsUtf8) {overhead : Int}
    {value : Text} {error : SizeError} :
    valueSize overhead (.ok encoding.codec) value = .error error ↔
      ∃ halves, EncodeError.firstHalves? "utf-8" value.toList = some halves ∧
        error = .unencodable halves := by
  simp only [valueSize, Encoding.codec]
  cases hencode : encoding.encode value with
  | error halves =>
      rw [h.encode_eq_error] at hencode
      simp [hencode, eq_comm]
  | ok bytes =>
      constructor
      · intro herror
        cases herror
      · rintro ⟨halves, hhalves, -⟩
        cases hencode.symm.trans (h.encode_eq_error.2 hhalves)

/-- Script files in UTF-8 are read or reported; only a path that cannot be handed to the disk is a
fault. -/
theorem Disk.readScript_eq_error (disk : Disk) {encoding : Encoding} (h : encoding.IsUtf8)
    (path : Path) (fault : Fault) :
    disk.readScript (.ok encoding.codec) path = .error fault ↔ path.fault? = some fault := by
  unfold readScript
  simp only
  cases path.fault? with
  | some other => simp
  | none =>
      cases disk.read path with
      | error error => simp
      | ok bytes =>
          have hmarked := h.decode_ne_unmarked bytes
          simp only [scriptText, Encoding.codec]
          split
          · rename_i family hdecoded
            exact absurd hdecoded (hmarked family)
          · simp
          · simp

/-! ## Actions that fail -/

def Statement.laterDigits (statement : Statement) : List CodePoint :=
  ((statement.words.drop 1).flatMap (·.toList)).filter Text.isAsciiDigit

/-- The number that an action writes out for the host or for its report, if it writes one that no
reader has bounded before. -/
def Action.written? : Action → Option Int
  | .free _ size => some size
  | .overBudget _ size _ => some size
  | _ => none

namespace Action

variable {config : Config} {frame : Frame} {store : Store} {statement : Statement}

/-- A variable is not defined where its value has no bytes, whatever the budget. -/
theorem ofDefinition_eq_fail {encoding : Encoding}
    (hcodec : config.codec = .ok encoding.codec) (h : encoding.IsUtf8)
    {definition : Definition} {name value : List CodePoint} {fault : Fault} :
    ofDefinition config store definition name value = .fail fault ↔
      ∃ error, EncodeError.firstHalves? "utf-8" value = some error ∧
        fault = .unencodable error := by
  simp only [ofDefinition, hcodec]
  cases hsize : valueSize config.valueOverhead (.ok encoding.codec) (.ofList value) with
  | error error =>
      obtain ⟨halves, hhalves, rfl⟩ := (valueSize_eq_error h).1 hsize
      rw [Text.toList_ofList] at hhalves
      simp [hhalves, eq_comm]
  | ok size =>
      simp only
      constructor
      · intro hfail
        split at hfail
        · cases hfail
        · split at hfail
          · cases hfail
          · cases hfail
      · rintro ⟨error, herror, -⟩
        cases hsize.symm.trans ((valueSize_eq_error h).2 ⟨error, herror, rfl⟩)

theorem ofMaxMemory_eq_fail {fault : Fault} :
    ofMaxMemory statement = .fail fault ↔
      4300 < statement.laterDigits.length ∧
        fault = .tooManyDigits statement.laterDigits.length := by
  unfold ofMaxMemory
  split
  · rename_i hwords
    have hnone : statement.laterDigits = [] := by rw [Statement.laterDigits, hwords]; rfl
    simp [hnone]
  · rw [show ((statement.words.drop 1).flatMap (·.toList)).filter Text.isAsciiDigit =
      statement.laterDigits from rfl]
    cases statement.laterDigits with
    | nil => simp
    | cons c cs =>
        simp only [Text.numberOf, List.length_map, Text.digitLimit]
        by_cases hle : (c :: cs).length ≤ 4300
        · simp only [if_pos hle]
          constructor
          · intro hset
            cases hset
          · intro hlong
            omega
        · simp only [if_neg hle, fail.injEq]
          exact ⟨fun hfault => ⟨Nat.lt_of_not_le hle, hfault.symm⟩, fun hfault => hfault.2.symm⟩

theorem ofPrint_ne_fail (fault : Fault) : ofPrint frame store statement ≠ .fail fault := by
  unfold ofPrint
  repeat' split
  all_goals simp

theorem ofFree_ne_fail (fault : Fault) : ofFree store statement ≠ .fail fault := by
  unfold ofFree
  split
  · simp only
    split
    · simp
    · simp
  · simp

theorem ofExternal_ne_fail (fault : Fault) : ofExternal config frame statement ≠ .fail fault := by
  unfold ofExternal nested
  repeat' split
  all_goals simp

theorem ofCall_ne_fail (fault : Fault) : ofCall config frame statement ≠ .fail fault := by
  unfold ofCall nested
  repeat' split
  all_goals simp

theorem ofUpdate_ne_fail (fault : Fault) : ofUpdate statement ≠ .fail fault := by
  unfold ofUpdate
  repeat' split
  all_goals simp

/-- Under UTF-8 only statements that set a budget or define a variable have actions that fail. -/
theorem of_eq_fail {line : Line} {encoding : Encoding}
    (hcodec : config.codec = .ok encoding.codec) (h : encoding.IsUtf8) {fault : Fault}
    (hfail : of config frame store (.ofLine line) = .fail fault) :
    (Statement.ofLine line).command = .maxMemory ∨
      ∃ definition name value error,
        definition? (.ofLine line) = some (definition, name, value) ∧
        EncodeError.firstHalves? "utf-8" value = some error := by
  have hdefining {problem : Problem}
      (hdefining : ofDefining config store (.ofLine line) problem = .fail fault) :
      ∃ definition name value error,
        definition? (.ofLine line) = some (definition, name, value) ∧
        EncodeError.firstHalves? "utf-8" value = some error := by
    unfold ofDefining at hdefining
    split at hdefining
    · cases hdefining
    · rename_i definition name value hdefines
      obtain ⟨error, herror, -⟩ := (ofDefinition_eq_fail hcodec h).1 hdefining
      exact ⟨definition, name, value, error, hdefines, herror⟩
  unfold of at hfail
  split at hfail
  · cases hfail
  · cases hc : (Statement.ofLine line).command with rw [hc] at hfail
    | print => exact absurd hfail (ofPrint_ne_fail fault)
    | string => exact .inr (hdefining hfail)
    | value => exact .inr (hdefining hfail)
    | maxMemory => exact .inl rfl
    | free => exact absurd hfail (ofFree_ne_fail fault)
    | output => exact absurd hfail (ofClear_ne (by simp) (by simp))
    | debug => exact absurd hfail (ofClear_ne (by simp) (by simp))
    | external => exact absurd hfail (ofExternal_ne_fail fault)
    | call => exact absurd hfail (ofCall_ne_fail fault)
    | updateWindow => exact absurd hfail (ofUpdate_ne_fail fault)
    | _ => cases hfail

end Action

/-! ## Statements that break off -/

namespace Exec

open Session

variable {disk : Disk} {say : Text → Exec Unit} {s : Session} {id : Nat} {frame : Frame}
  {line : Line}

theorem sure_writing {n : Int} {operation : Exec Unit} (hn : Text.isWritable n = true)
    (h : Sure operation) : Sure (writing n operation) := by
  unfold writing
  rw [if_pos hn]
  exact h

theorem sure_announce (hsay : ∀ text, Sure (say text)) (id : Nat) (line : Line) {action : Action}
    (hfail : ∀ fault, action ≠ .fail fault)
    (hwritable : ∀ n, action.written? = some n → Text.isWritable n = true) :
    Sure (announce say id line action) := by
  cases action with
  | print text => exact hsay text
  | clearOutput => exact (calm_tell _).sure
  | clearDebug => exact (calm_tell _).sure
  | update text => exact (calm_tell _).sure
  | define definition name value size => exact (calm_tell _).sure
  | setBudget ceiling => exact (calm_tell _).sure
  | free name size => exact sure_writing (hwritable size rfl) (calm_tell _).sure
  | refuse problem => exact (calm_report id _).sure
  | overBudget name size budget =>
      exact (calm_log _ _).sure.bind fun _ =>
        sure_writing (hwritable size rfl) (calm_report id _).sure
  | fail fault => exact absurd rfl (hfail fault)
  | skip => exact (calm_pure ()).sure
  | call name arguments => exact (calm_pure ()).sure
  | external path => exact (calm_pure ()).sure

theorem openScript_sure (hsay : ∀ text, Sure (say text)) {path : Text} {base : Path}
    (hread : ∃ text, disk.readScript (s.interpreter s.activeInterpreter).config.codec
      (base.join (.ofText path)) = .ok text) :
    ∃ opened t, openScript disk say path base s = (.ok opened, t) := by
  unfold openScript
  simp only [bind_apply, get]
  split
  · obtain ⟨text, htext⟩ := hread
    simp only [record, htext, ofExcept]
    cases text with
    | error reason =>
        exact ((calm_log _ _).sure.bind fun _ => (hsay _).bind fun _ => (hsay _).bind fun _ =>
          (calm_report s.activeInterpreter _).sure.bind fun _ => (calm_pure none).sure) _
    | ok source =>
        refine ((hsay _).bind fun _ t => ?_) _
        obtain ⟨script, u, hp, -⟩ := prepare_apply s.activeInterpreter source
          (base.join (.ofText path)).parent (some path) t
        exact ⟨_, _, by rw [bind_apply, hp]; rfl⟩
  · exact ⟨none, s, rfl⟩

/-- A statement breaks off only if its action fails, if it cannot write a number, or if the file of
an external script cannot be asked for. -/
theorem perform_sure (hsay : ∀ text, Sure (say text)) (id : Nat) (line : Line) (s : Session)
    {action : Action} (hfail : ∀ fault, action ≠ .fail fault)
    (hwritable : ∀ n, action.written? = some n → Text.isWritable n = true)
    (hread : ∀ path, action = .external path →
      ∃ text, disk.readScript (s.interpreter s.activeInterpreter).config.codec
        (frame.base.join (.ofText path)) = .ok text) :
    ∃ opened t, perform disk say id frame line action s = (.ok opened, t) := by
  have halone := ((sure_announce hsay id line hfail hwritable).bind fun _ =>
    (calm_pure (none : Option Opening)).sure) s
  cases action with
  | call name arguments =>
      obtain ⟨t, ho, -⟩ := openCall_apply id name arguments frame s
      exact ⟨_, t, by rw [perform, bind_apply, ho]; rfl⟩
  | external path => exact openScript_sure hsay (hread path rfl)
  | _ =>
      simp only [perform]
      exact halone

theorem openScript_fault {path : Text} {base : Path} {fault : Fault} (hhost : s.host.isSome = true)
    (hread : disk.readScript (s.interpreter s.activeInterpreter).config.codec
      (base.join (.ofText path)) = .error fault) :
    openScript disk say path base s =
      (.error fault, s.record (.sought (base.join (.ofText path)))) := by
  unfold openScript
  simp only [bind_apply, get, hhost, if_true, record, modify, hread, ofExcept, fail]

end Exec

/-- A statement that breaks a run off, and the fault that it does so with: it sets a budget with
more digits than a number may have, it defines a variable with a half of a surrogate pair in its
value, or it runs an external script below the depth limit whose path has a null character or a half
in it that no file name can have. -/
inductive Place.Offends (p : Place) : Fault → Prop
  | overlong (hc : (Statement.ofLine p.line).command = .maxMemory)
      (hdigits : 4300 < (Statement.ofLine p.line).laterDigits.length) :
      Offends p (.tooManyDigits (Statement.ofLine p.line).laterDigits.length)
  | halfInValue {definition : Definition} {name value : List CodePoint} {error : EncodeError}
      (hdefines : Action.definition? (.ofLine p.line) = some (definition, name, value))
      (hhalves : EncodeError.firstHalves? "utf-8" value = some error) :
      Offends p (.unencodable error)
  | path {first word : Text} {fault : Fault} (hc : (Statement.ofLine p.line).command = .external)
      (hwords : (Statement.ofLine p.line).words = [first, "RUN", word])
      (hdepth : p.frame.depth < (p.session.interpreter p.interpreter).config.depthLimit)
      (hfault : (p.frame.base.join
        (.ofText (.ofList (word.toList.filter (· ≠ CodePoint.char '"'))))).fault? = some fault) :
      Offends p fault

namespace Exec

open Session

variable {p : Place} {encoding : Encoding}

/-- The script of an external statement is read with the settings of the place, although the trace
line is already out. -/
theorem readScript_at (disk : Disk) (hactive : p.session.activeInterpreter = p.interpreter)
    (action : Action) (path : Text) :
    let t := (p.session.traced p.interpreter p.line).act p.interpreter p.frame p.line action
    t.host.isSome = p.session.host.isSome ∧
      disk.readScript (t.interpreter t.activeInterpreter).config.codec
          (p.frame.base.join (.ofText path)) =
        disk.readScript (p.session.interpreter p.interpreter).config.codec
          (p.frame.base.join (.ofText path)) := by
  intro t
  have hbooks : t.books = p.session.books :=
    (books_act _ _ _ _ _).trans (books_traced _ _ _)
  have hsettings := settings_eq_of_books hbooks
  refine ⟨congrArg (·.2) hsettings, ?_⟩
  rw [activeInterpreter_congr hbooks, hactive, config_eq_of_settings hsettings]

/-- Where a statement offends, it breaks off, and the content shows nothing of it but its trace
line. -/
theorem stepAt_of_offends (disk : Disk) (say : Text → Exec Unit)
    (hhost : p.session.host.isSome = true)
    (hactive : p.session.activeInterpreter = p.interpreter)
    (hcodec : (p.session.interpreter p.interpreter).config.codec = .ok encoding.codec)
    (hutf8 : encoding.IsUtf8) {fault : Fault} (h : p.Offends fault) :
    ∃ w, stepAt disk say p = (.error fault, w) ∧
      w.content = (p.session.traced p.interpreter p.line).content := by
  rw [stepAt_eq]
  cases h with
  | overlong hc hdigits =>
      have ha : p.action =
          .fail (.tooManyDigits (Statement.ofLine p.line).laterDigits.length) := by
        rw [p.action_eq, Action.of_command hc, Action.ofCommand, Action.ofMaxMemory_eq_fail]
        exact ⟨hdigits, rfl⟩
      rw [ha]
      exact ⟨_, rfl, content_act _ _ (fun _ => rfl) _ _⟩
  | @halfInValue definition name value error hdefines hhalves =>
      have ha : p.action = .fail (.unencodable error) := by
        rw [p.action_eq, Action.of_definition hdefines,
          Action.ofDefinition_eq_fail hcodec hutf8]
        exact ⟨error, hhalves, rfl⟩
      rw [ha]
      exact ⟨_, rfl, content_act _ _ (fun _ => rfl) _ _⟩
  | @path first word _ hc hwords hdepth hfault =>
      have ha : p.action = .external
        (Text.ofList (word.toList.filter (· ≠ CodePoint.char '"'))) := by
        rw [p.action_eq, Action.of_eq_external_iff]
        exact ⟨hc, hdepth, first, word, hwords, rfl⟩
      rw [ha]
      obtain ⟨hhost', hread⟩ := readScript_at disk hactive
        (.external (Text.ofList (word.toList.filter (· ≠ CodePoint.char '"'))))
        (Text.ofList (word.toList.filter (· ≠ CodePoint.char '"')))
      rw [hcodec, (Disk.readScript_eq_error disk hutf8 _ fault).2 hfault] at hread
      refine ⟨_, openScript_fault (hhost'.trans hhost) hread, ?_⟩
      rw [content_record _ rfl, content_act]
      exact fun _ => rfl

/-- Where a statement breaks off, it offends, provided that it can write out its numbers. -/
theorem offends_of_stepAt {disk : Disk} {say : Text → Exec Unit}
    (hsay : ∀ text, Sure (say text)) (hhost : p.session.host.isSome = true)
    (hactive : p.session.activeInterpreter = p.interpreter)
    (hcodec : (p.session.interpreter p.interpreter).config.codec = .ok encoding.codec)
    (hutf8 : encoding.IsUtf8)
    (hwritable : ∀ n, p.action.written? = some n → Text.isWritable n = true) {fault : Fault}
    {w : Session} (h : stepAt disk say p = (.error fault, w)) : p.Offends fault := by
  by_cases hoffends : ∃ fault', p.Offends fault'
  · obtain ⟨fault', hoffends⟩ := hoffends
    obtain ⟨w', hstep, -⟩ := stepAt_of_offends disk say hhost hactive hcodec hutf8 hoffends
    rw [hstep] at h
    cases h
    exact hoffends
  · -- otherwise everything that the statement does returns
    exfalso
    have hfail : ∀ f, p.action ≠ .fail f := by
      intro f hf
      rw [p.action_eq] at hf
      rcases Action.of_eq_fail hcodec hutf8 hf with hc | ⟨_, _, _, _, hdefines, hhalves⟩
      · rw [Action.of_command hc, Action.ofCommand, Action.ofMaxMemory_eq_fail] at hf
        exact hoffends ⟨_, .overlong hc hf.1⟩
      · exact hoffends ⟨_, .halfInValue hdefines hhalves⟩
    have hread : ∀ path, p.action = .external path →
        ∃ text, disk.readScript (p.session.interpreter p.interpreter).config.codec
          (p.frame.base.join (.ofText path)) = .ok text := by
      intro path hpath
      rw [p.action_eq, Action.of_eq_external_iff] at hpath
      obtain ⟨hc, hdepth, first, word, hwords, rfl⟩ := hpath
      cases hfile : disk.readScript (p.session.interpreter p.interpreter).config.codec
          (p.frame.base.join (.ofText
            (Text.ofList (word.toList.filter (· ≠ CodePoint.char '"'))))) with
      | ok text => exact ⟨text, rfl⟩
      | error f =>
          rw [hcodec] at hfile
          have hfault := (Disk.readScript_eq_error disk hutf8 _ f).1 hfile
          exact absurd ⟨_, .path hc hwords hdepth hfault⟩ hoffends
    obtain ⟨opened, t, hperformed⟩ :=
      perform_sure hsay p.interpreter (Statement.citedLine p.line)
        ((p.session.traced p.interpreter p.line).act p.interpreter p.frame p.line p.action)
        hfail hwritable fun path hpath => by
          rw [(readScript_at disk hactive p.action path).2]
          exact hread path hpath
    rw [stepAt_eq] at h
    cases hperformed.symm.trans h

end Exec

open Exec in
/-- A run of an idle interpreter for a host, with the settings asking for UTF-8 and every number
that it writes out being short enough for that, returns unless it reaches a statement that offends.
If it reaches one, it breaks off with the fault of this statement; then settings, stores and
reports, what the host shows and what it was told are as they were before the statement, its trace
line apart. -/
theorem run_returns_unless_offends (s : Session) (disk : Disk) (id : Nat) (source : Text)
    (base : Path) (file : Option Text) (encoding : Encoding) (hid : id < s.interpreters.size)
    (hidle : (s.interpreter id).activeRuns = 0) (hplain : s.reactions = [])
    (hhost : s.host.isSome = true)
    (hcodec : (s.interpreter id).config.codec = .ok encoding.codec)
    (hutf8 : encoding = .utf8 ∨ encoding = .utf8Marked)
    (hwritable : ∀ p n, s.Reaches disk id source base file p → p.action.written? = some n →
      Text.isWritable n = true) :
    let out := s.run disk id source base file
    ((∃ result, out.1 = .ok result) ↔
      ¬ ∃ p fault, s.Reaches disk id source base file p ∧ p.Offends fault) ∧
    ∀ p fault, s.Reaches disk id source base file p → p.Offends fault →
      out.1 = .error fault ∧
        out.2.content = (p.session.traced p.interpreter p.line).content := by
  intro out
  have hreactions : s.reactions.length = 0 := by simp [hplain]
  have hsure : ∀ text, Sure (Exec.say disk s.reactions.length text) := by
    rw [hreactions]
    exact fun text => (calm_tell _).sure
  have hruns : Runs disk (Exec.say disk s.reactions.length)
      (AtDepth (s.interpreter id).config.depthLimit) id source base file s out :=
    runs_run (within_say disk Session.books_law _) hid hidle source base file
  -- host, settings and the interpreter at work are the same at every place
  have hplace : ∀ p, s.Reaches disk id source base file p →
      p.session.host.isSome = true ∧ p.session.activeInterpreter = p.interpreter ∧
        (p.session.interpreter p.interpreter).config.codec = .ok encoding.codec := by
    intro p hp
    have hsettings := RunReaches.stable (Session.settings_stable s.settings)
      (within_say disk (Session.settings_stable s.settings).law _) hp rfl
    obtain ⟨hi, hstanding⟩ := RunReaches.standing (within_say disk Session.books_law _) hid hp
    have hhost' : p.session.host.isSome = true := (congrArg (·.2) hsettings).trans hhost
    refine ⟨hhost', ?_, ?_⟩
    · rw [hi]
      exact hstanding.active hhost'
    · rw [hi, Session.config_eq_of_settings hsettings]
      exact hcodec
  have hbroken : ∀ p fault, s.Reaches disk id source base file p → p.Offends fault →
      out.1 = .error fault ∧
        out.2.content = (p.session.traced p.interpreter p.line).content := by
    intro p fault hp hoffends
    obtain ⟨hhost', hactive, hcodec'⟩ := hplace p hp
    obtain ⟨w, hstep, hcontent⟩ := stepAt_of_offends disk (Exec.say disk s.reactions.length) hhost'
      hactive hcodec' hutf8 hoffends
    refine ⟨(hruns.fault_iff hsure).2 ⟨p, w, hp, hstep⟩, ?_⟩
    rw [hruns.content_of_fault hsure hp hstep]
    exact hcontent
  refine ⟨⟨?_, ?_⟩, hbroken⟩
  · rintro ⟨result, hresult⟩ ⟨p, fault, hp, hoffends⟩
    have hfault := (hbroken p fault hp hoffends).1
    cases hresult.symm.trans hfault
  · intro hnone
    cases hout : out.1 with
    | ok result => exact ⟨result, rfl⟩
    | error fault =>
        obtain ⟨p, w, hp, hstep⟩ := (hruns.fault_iff hsure).1 hout
        obtain ⟨hhost', hactive, hcodec'⟩ := hplace p hp
        have hoffends := offends_of_stepAt hsure hhost' hactive hcodec' hutf8
          (fun n => hwritable p n hp) hstep
        exact absurd ⟨p, fault, hp, hoffends⟩ hnone

/-- A called function runs an external script with a null character in its path: what was printed
before stays, what comes after is not executed, and the trace line is the last that the host hears.
-/
theorem run_breaks_off_at_null_path :
    let s : Session := { host := some { surface := .buffer {} }, interpreters := #[{}] }
    let source := "print \"a\"\nfunction f \x7b\n@EXTERNAL RUN b\x00\n\x7d\ncall f\nprint \"c\""
    let out := s.run Disk.blank 0 source {} none
    (0 < s.interpreters.size ∧ (s.interpreter 0).activeRuns = 0 ∧ s.reactions = [] ∧
      s.host.isSome = true ∧ (s.interpreter 0).config.codec = .ok Encoding.utf8.codec ∧
      ∀ p n, s.Reaches Disk.blank 0 source {} none p → p.action.written? = some n →
        Text.isWritable n = true) ∧
    (∃ p, s.Reaches Disk.blank 0 source {} none p ∧ p.Offends .embeddedNull ∧
      out.2.content = (p.session.traced p.interpreter p.line).content) ∧
    out.2.notices.getLast? = some (.debug (.trace "@EXTERNAL RUN b\x00")) := by
  intro s source
  have hid : 0 < s.interpreters.size := by decide
  have hidle : (s.interpreter 0).activeRuns = 0 := by decide
  have hcodec : (s.interpreter 0).config.codec = .ok Encoding.utf8.codec := by
    have hfound : (Encoding.find (s.interpreter 0).config.encoding).toOption = some .utf8 := by
      decide +kernel
    rw [Config.codec, Codec.find]
    cases hfind : Encoding.find (s.interpreter 0).config.encoding with
    | ok encoding =>
        rw [hfind] at hfound
        cases hfound
        rfl
    | error error =>
        rw [hfind] at hfound
        cases hfound
  have hwritable : ∀ p n, s.Reaches Disk.blank 0 source {} none p → p.action.written? = some n →
      Text.isWritable n = true := by
    intro p n hp hn
    -- no statement on record writes out a number
    have hnone : ∀ action ∈ (s.run Disk.blank 0 source {} none).2.actions 0,
        action.written? = none := by decide +kernel
    have hbalanced := Exec.within_say Disk.blank Session.books_law s.reactions.length
    have hruns : Exec.Runs Disk.blank (Exec.say Disk.blank s.reactions.length)
        (Exec.AtDepth (s.interpreter 0).config.depthLimit) 0 source {} none s
        (s.run Disk.blank 0 source {} none) := Exec.runs_run hbalanced hid hidle source {} none
    have hmem := Exec.RunReaches.mem_actions hbalanced
      (Exec.within_say Disk.blank Session.adds_law _) hid hp hruns
    rw [hnone p.action hmem] at hn
    cases hn
  have hfault : (match (s.run Disk.blank 0 source {} none).1 with
      | .error fault => decide (fault = .embeddedNull)
      | .ok _ => false) = true := by decide +kernel
  obtain ⟨hreturns, hbroken⟩ := run_returns_unless_offends s Disk.blank 0 source {} none .utf8 hid
    hidle rfl rfl hcodec (.inl rfl) hwritable
  refine ⟨⟨hid, hidle, rfl, rfl, hcodec, hwritable⟩, ?_, by decide +kernel⟩
  rcases Classical.em (∃ p fault, s.Reaches Disk.blank 0 source {} none p ∧ p.Offends fault)
    with ⟨p, fault, hp, hoffends⟩ | hnone
  · obtain ⟨hout, hcontent⟩ := hbroken p fault hp hoffends
    rw [hout] at hfault
    rw [of_decide_eq_true hfault] at hoffends
    exact ⟨p, hp, hoffends, hcontent⟩
  · obtain ⟨result, hresult⟩ := hreturns.2 hnone
    rw [hresult] at hfault
    cases hfault

/-- A definition with half of a surrogate pair in its value sets no budget and asks for no file, but
it breaks the run off: the variable is not defined, and nothing is reported. -/
theorem half_in_value_breaks_run_off :
    let s : Session :=
      { host := some { surface := .buffer {} }
        interpreters := #[{ config := { trace := false } }] }
    let out := s.run Disk.blank 0 ("string a = \"" ++ .ofList [.half 0] ++ "\"") {} none
    (match out.1 with
      | .error fault => some fault
      | .ok _ => none) = some (.unencodable
        { codec := "utf-8", reason := .surrogate, start := 0, count := 1, first := 0xD800 }) ∧
    (out.2.interpreter 0).store.value? "a" = none ∧
    (out.2.interpreter 0).report.codes = [] ∧ out.2.notices = [.debug .banner] := by
  decide +kernel

end LineScript
