import Kesharon.Server.Authentication
import Kesharon.Server.Handler
import Kesharon.Server.RequestRead

namespace Kesharon.Server

open Framework Application Kesharon.Daemon Ipc Protocol

/-- What is reported when a read of a request fails. -/
def readFailed (e : IoError) : RequestRead := .ok (.error (.io e.message))

section Reading

variable {daemon : Daemon} {timeout : Nat}

theorem receiveRequest_failsWith (timeout : Nat) :
    (receiveRequest timeout).FailsWith fun e => .error (.io e.message) := by
  refine ⟨fun e => rfl, fun token => ?_⟩
  dsimp only
  cases String.fromUTF8? token.toByteArray with
  | none => trivial
  | some text =>
    refine ⟨fun e => rfl, fun length => ?_⟩
    dsimp only
    cases validateFrameSize (fromBeBytes length) with
    | error e => trivial
    | ok u => exact ⟨fun e => rfl, fun payload => trivial⟩

theorem readAuthenticatedRequest_failsWith (daemon : Daemon) (timeout : Nat) :
    (daemon.readAuthenticatedRequest timeout).FailsWith readFailed :=
  Reads.failsWith_map daemon.authenticate (receiveRequest_failsWith timeout)

/-- A request that has come in begins with its token. -/
theorem token_of_feed {input : List UInt8} {received : Except DaemonError (String × List UInt8)}
    (h : (receiveRequest timeout).feed input = some received) :
    (∃ e, received = .error e) ∨ ∃ token frame, received = .ok (token, frame) ∧
      String.fromUTF8? (input.take 64).toByteArray = some token := by
  unfold receiveRequest at h
  unfold Reads.feed at h
  split_ifs at h with enough
  dsimp only at h
  cases text : String.fromUTF8? (input.take 64).toByteArray with
  | none =>
    rw [text] at h
    obtain rfl := Option.some.inj h
    exact .inl ⟨_, rfl⟩
  | some token =>
    rw [text] at h
    dsimp only at h
    unfold Reads.feed at h
    split_ifs at h
    dsimp only at h
    cases size : validateFrameSize (fromBeBytes ((input.drop 64).take 4)) with
    | error e =>
      rw [size] at h
      obtain rfl := Option.some.inj h
      exact .inl ⟨_, rfl⟩
    | ok u =>
      rw [size] at h
      dsimp only at h
      unfold Reads.feed at h
      split_ifs at h
      obtain rfl := Option.some.inj h
      exact .inr ⟨token, _, rfl, rfl⟩

/-- An authenticated, well-formed request is what its bytes are read as. -/
theorem feed_authenticated (timeout : Nat) (rest : List UInt8) {token : String}
    {frame : List UInt8} {request : ClientRequest}
    (accepted : daemon.launchToken.matchesHex token = .ok true)
    (decoded : decodeClientRequestFrame daemon.requests frame = .ok request) :
    (daemon.readAuthenticatedRequest timeout).feed (utf8 token ++ frame ++ rest) =
      some (.ok (.ok request)) := by
  obtain ⟨whole, size, fits, _⟩ := decodeFrame_ok (decodeClientRequestFrame_ok.mp decoded).1
  unfold Daemon.readAuthenticatedRequest
  rw [Reads.feed_map, Reads.feed_eq_consume,
    consume_receiveRequest (LaunchToken.length_of_matchesHex accepted) ⟨whole, size, fits⟩]
  simp only [Option.map_some, Daemon.authenticate, accepted, decoded, Except.mapError]

end Reading

/-- No token is presented that the daemon accepts. -/
def Entry.Unauthenticated (daemon : Daemon) (input : List UInt8) : Entry → Prop
  | .frame presented _ | .connection presented =>
    daemon.launchToken.matchesHex presented ≠ .ok true
  | .served _ | .busy _ => ∀ text, String.fromUTF8? (input.take 64).toByteArray = some text →
    daemon.launchToken.matchesHex text ≠ .ok true

theorem authenticate_refused (daemon : Daemon) {presented : String} (frame : List UInt8)
    (refused : daemon.launchToken.matchesHex presented ≠ .ok true) (request : ClientRequest) :
    daemon.authenticate (.ok (presented, frame)) ≠ .ok (.ok request) := by
  unfold Daemon.authenticate
  dsimp only
  cases matching : daemon.launchToken.matchesHex presented with
  | error panic => exact nofun
  | ok answer =>
    cases answer with
    | false => exact nofun
    | true => exact absurd matching refused

/-- No request comes out of an input without the token. -/
theorem feed_refused {daemon : Daemon} {timeout : Nat} {input : List UInt8}
    (refused : ∀ text, String.fromUTF8? (input.take 64).toByteArray = some text →
      daemon.launchToken.matchesHex text ≠ .ok true) (request : ClientRequest) :
    (daemon.readAuthenticatedRequest timeout).feed input ≠ some (.ok (.ok request)) := by
  unfold Daemon.readAuthenticatedRequest
  rw [Reads.feed_map]
  cases brought : (receiveRequest timeout).feed input with
  | none => exact nofun
  | some received =>
    rcases token_of_feed brought with ⟨e, rfl⟩ | ⟨token, frame, rfl, text⟩
    · exact nofun
    · intro accepted
      exact authenticate_refused daemon frame (refused token text) request (Option.some.inj accepted)

namespace Handler

variable {σ : Type} {service : Service} {h h' : Handler σ}

/-- A thread that has answered nothing and will answer nothing. -/
def Refuses (service : Service) (h : Handler σ) : Prop :=
  h.output = [] ∧
    match h.thread with
    | .entered entry => entry.Unauthenticated service.daemon h.unread
    | .reading _ program => ∃ whole, program.Expects readFailed h.unread whole ∧
        ∀ request, whole ≠ some (.ok (.ok request))
    | .readingPrefix presented | .readingBody presented _ =>
        service.daemon.launchToken.matchesHex presented ≠ .ok true
    | .done ending => ∀ bytes, ending ≠ .ok (.ok bytes)
    | _ => False

theorem proceed_refuses {busy : Bool} {input : List UInt8} {whole : Option RequestRead}
    {program : Blocked RequestRead ⊕ RequestRead} (silent : h.output = [])
    (unread : h.unread = input)
    (awaits : Awaits readFailed input whole program ∨ ∃ e, program = .inr (readFailed e))
    (refused : ∀ request, whole ≠ some (.ok (.ok request))) :
    (h.proceed service busy program).1.Refuses service ∧
      (h.proceed service busy program).1.session = h.session := by
  have ends (read : RequestRead) (other : ∀ request, read ≠ .ok (.ok request)) :
      (h.serveRead service busy read).1.Refuses service ∧
        (h.serveRead service busy read).1.session = h.session := by
    rcases read with panic | (error | request)
    · exact ⟨⟨silent, nofun⟩, rfl⟩
    · exact ⟨⟨silent, nofun⟩, rfl⟩
    · exact absurd rfl (other request)
  subst unread
  rcases awaits with awaits | ⟨e, rfl⟩
  · cases program with
    | inl program => exact ⟨⟨silent, whole, awaits, refused⟩, rfl⟩
    | inr read => exact ends read fun request he => refused request (he ▸ awaits)
  · exact ends _ nofun

theorem frame_refuses {presented : String} {frame : List UInt8} {writes : Bool}
    [StateRepository σ] (silent : h.output = [])
    (refused : service.daemon.launchToken.matchesHex presented ≠ .ok true) :
    (h.handleAuthenticatedFrame service writes presented frame).1.Refuses service ∧
      (h.handleAuthenticatedFrame service writes presented frame).1.session = h.session := by
  have other := authenticate_refused service.daemon frame refused
  unfold handleAuthenticatedFrame
  generalize service.daemon.authenticate (.ok (presented, frame)) = read at other
  rcases read with panic | (error | request)
  · exact ⟨⟨silent, nofun⟩, rfl⟩
  · exact ⟨⟨silent, nofun⟩, rfl⟩
  · exact absurd rfl (other request)

/-- A step of a thread that refuses: it goes on to refuse and leaves the session to the others. -/
theorem step_refuses [StateRepository σ] {a : ThreadAction} {o : Output}
    (refuses : h.Refuses service) (hs : h.step service a = some (h', o)) :
    h'.Refuses service ∧ (h'.session = h.session ∧ (∀ b, a ≠ .others b) ∨
      ∃ b, a = .others b ∧ h.session.step service.streamId b = some (h'.session, o)) := by
  obtain ⟨silent, thread⟩ := refuses
  have quiet (refuses : h'.Refuses service ∧ h'.session = h.session) (own : ∀ b, a ≠ .others b) :
      h'.Refuses service ∧ (h'.session = h.session ∧ (∀ b, a ≠ .others b) ∨
        ∃ b, a = .others b ∧ h.session.step service.streamId b = some (h'.session, o)) :=
    ⟨refuses.1, .inl ⟨refuses.2, own⟩⟩
  cases step_moved hs with
  | others b session output steps => exact ⟨⟨silent, thread⟩, .inr ⟨b, rfl, steps⟩⟩
  | entered entry here =>
    rw [here] at thread
    refine quiet ?_ nofun
    cases entry with
    | frame presented frame => exact frame_refuses silent thread
    | connection presented => exact ⟨⟨silent, thread⟩, rfl⟩
    | served timeout | busy timeout =>
      exact proceed_refuses silent rfl
        (.inl (Reads.start_expects (readAuthenticatedRequest_failsWith _ timeout) h.unread))
        (feed_refused thread)
  | read busy program result late r here reads =>
    rw [here] at thread
    obtain ⟨whole, expects, refused⟩ := thread
    exact quiet (proceed_refuses silent rfl (Blocked.turn_expects expects reads late) refused) nofun
  | prefixFails presented error here => exact quiet ⟨⟨silent, nofun⟩, rfl⟩ nofun
  | bodyFails presented length error here => exact quiet ⟨⟨silent, nofun⟩, rfl⟩ nofun
  | refused presented error here enough large => exact quiet ⟨⟨silent, nofun⟩, rfl⟩ nofun
  | length presented here enough valid =>
    rw [here] at thread
    exact quiet ⟨⟨silent, thread⟩, rfl⟩ nofun
  | body presented length unread here enough rest =>
    rw [here] at thread
    exact quiet (frame_refuses silent thread) nofun
  | called _ _ _ _ _ here | answered _ _ _ _ _ _ here | write _ _ _ _ here | written _ _ here
  | writeFails _ _ _ _ here | received _ _ _ _ _ here | dropped _ _ _ _ here =>
    rw [here] at thread
    exact thread.elim

/-- The frame that the busy path has for what it has read. -/
def Answers (service : Service) (whole : Option RequestRead) (frame : Frame) : Prop :=
  ∃ request, whole = some (.ok (.ok request)) ∧
    Frame.encode service.responses (busyResponse request.requestId) = .ok frame

theorem Answers.unique {whole : Option RequestRead} {frame frame' : Frame}
    (answers : Answers service whole frame) (answers' : Answers service whole frame') :
    frame = frame' := by
  obtain ⟨request, rfl, encodes⟩ := answers
  obtain ⟨request', same, encodes'⟩ := answers'
  cases same
  exact Except.ok.inj (encodes.symm.trans encodes')

/-- A thread on the busy path: it has written as much of its one frame as it has, and ends when
there is no frame, when an I/O operation fails, or when all of it is written. -/
def Rejects (service : Service) (whole : Option RequestRead) (h : Handler σ) : Prop :=
  match h.thread with
  | .entered entry => h.output = [] ∧ ∃ timeout, entry = .busy timeout ∧
      (service.daemon.readAuthenticatedRequest timeout).feed h.unread = whole
  | .reading busy program => h.output = [] ∧ busy = true ∧
      program.Expects readFailed h.unread whole
  | .writing left rest channel => rest = [] ∧ channel = none ∧
      ∃ frame, Answers service whole frame ∧ h.output ++ left = frameOf frame.payload
  | .done ending =>
      (∃ message, ending = .ok (.error (.io message))) ∧
          (∀ frame, Answers service whole frame → h.output <+: frameOf frame.payload) ∨
        (∃ frame, Answers service whole frame ∧ ending = .ok (.ok []) ∧
          h.output = frameOf frame.payload) ∨
        h.output = [] ∧ ∀ frame, ¬ Answers service whole frame
  | _ => False

theorem proceed_rejects {input : List UInt8} {whole : Option RequestRead}
    {program : Blocked RequestRead ⊕ RequestRead} (silent : h.output = [])
    (unread : h.unread = input)
    (awaits : Awaits readFailed input whole program ∨ ∃ e, program = .inr (readFailed e)) :
    (h.proceed service true program).1.Rejects service whole ∧
      (h.proceed service true program).1.session = h.session := by
  subst unread
  rcases awaits with awaits | ⟨e, rfl⟩
  · cases program with
    | inl program => exact ⟨⟨silent, rfl, awaits⟩, rfl⟩
    | inr read =>
      obtain rfl : whole = some read := awaits
      rcases read with panic | (error | request)
      · exact ⟨.inr (.inr ⟨silent, fun frame ⟨_, same, _⟩ => by cases same⟩), rfl⟩
      · exact ⟨.inr (.inr ⟨silent, fun frame ⟨_, same, _⟩ => by cases same⟩), rfl⟩
      · simp only [proceed, serveRead, if_true]
        unfold reply
        cases encodes : Frame.encode service.responses (busyResponse request.requestId) with
        | error e =>
          refine ⟨.inr (.inr ⟨silent, ?_⟩), rfl⟩
          rintro frame ⟨request', same, encodes'⟩
          cases same
          rw [encodes] at encodes'
          cases encodes'
        | ok frame =>
          refine ⟨⟨rfl, rfl, frame, ⟨request, rfl, encodes⟩, ?_⟩, rfl⟩
          dsimp only
          rw [silent]
          rfl
  · refine ⟨.inl ⟨⟨e.message, rfl⟩, fun frame _ => ?_⟩, rfl⟩
    change h.output <+: _
    rw [silent]
    exact List.nil_prefix

/-- A step of a thread on the busy path. -/
theorem step_rejects [StateRepository σ] {whole : Option RequestRead} {a : ThreadAction}
    {o : Output} (rejects : h.Rejects service whole) (hs : h.step service a = some (h', o)) :
    h'.Rejects service whole ∧ (h'.session = h.session ∧ (∀ b, a ≠ .others b) ∨
      ∃ b, a = .others b ∧ h.session.step service.streamId b = some (h'.session, o)) := by
  have quiet (rejects : h'.Rejects service whole ∧ h'.session = h.session)
      (own : ∀ b, a ≠ .others b) :
      h'.Rejects service whole ∧ (h'.session = h.session ∧ (∀ b, a ≠ .others b) ∨
        ∃ b, a = .others b ∧ h.session.step service.streamId b = some (h'.session, o)) :=
    ⟨rejects.1, .inl ⟨rejects.2, own⟩⟩
  unfold Rejects at rejects
  cases step_moved hs with
  | others b session output steps => exact ⟨rejects, .inr ⟨b, rfl, steps⟩⟩
  | entered entry here =>
    rw [here] at rejects
    obtain ⟨silent, timeout, rfl, feeds⟩ := rejects
    refine quiet (proceed_rejects silent rfl (.inl ?_)) nofun
    rw [← feeds]
    exact Reads.start_expects (readAuthenticatedRequest_failsWith _ timeout) h.unread
  | read busy program result late r here reads =>
    rw [here] at rejects
    obtain ⟨silent, rfl, expects⟩ := rejects
    exact quiet (proceed_rejects silent rfl (Blocked.turn_expects expects reads late)) nofun
  | write left rest channel count here =>
    rw [here] at rejects
    obtain ⟨rfl, rfl, frame, answers, cut⟩ := rejects
    refine quiet ⟨⟨rfl, rfl, frame, answers, ?_⟩, rfl⟩ nofun
    rw [List.append_assoc, List.take_append_drop]
    exact cut
  | written rest channel here =>
    rw [here] at rejects
    obtain ⟨rfl, rfl, frame, answers, cut⟩ := rejects
    rw [List.append_nil] at cut
    exact quiet ⟨.inr (.inl ⟨frame, answers, rfl, cut⟩), rfl⟩ nofun
  | writeFails left rest channel error here =>
    rw [here] at rejects
    obtain ⟨rfl, rfl, frame, answers, cut⟩ := rejects
    refine quiet ⟨.inl ⟨⟨error.message, rfl⟩, fun frame' answers' => ?_⟩, rfl⟩ nofun
    rw [← answers.unique answers', ← cut]
    exact List.prefix_append _ _
  | prefixFails _ _ here | bodyFails _ _ _ here | refused _ _ here | length _ here
  | body _ _ _ here | called _ _ _ _ _ here | answered _ _ _ _ _ _ here
  | received _ _ _ _ _ here | dropped _ _ _ _ here =>
    rw [here] at rejects
    exact rejects.elim

end Handler

section Runs

variable {σ : Type} [StateRepository σ] {service : Service} {h h' : Handler σ}

/-- What a step keeps of a thread that leaves the session to the others, a run keeps. -/
theorem run_own {I : Handler σ → Prop} {tr : List (ThreadAction × Output)}
    (run : (handler service σ).Run Machine.anyStep h tr h') (start : I h)
    (keep : ∀ t u a o, I t → t.step service a = some (u, o) → I u ∧
      (u.session = t.session ∧ (∀ b, a ≠ .others b) ∨
        ∃ b, a = .others b ∧ t.session.step service.streamId b = some (u.session, o))) :
    I h' ∧ (session σ service.streamId).Run Machine.anyStep h.session (othersTrace tr) h'.session := by
  apply run.history (P := fun tr h' => I h' ∧
    (session σ service.streamId).Run Machine.anyStep h.session (othersTrace tr) h'.session)
  · exact ⟨start, .nil _⟩
  · rintro tr t a u o ⟨before, others⟩ _ hs
    obtain ⟨after, own⟩ := keep t u a o before hs
    refine ⟨after, ?_⟩
    rw [othersTrace_append]
    rcases own with ⟨same, own⟩ | ⟨b, rfl, stepped⟩
    · rw [othersTrace_own own, List.append_nil, same]
      exact others
    · exact others.snoc trivial stepped

theorem run_refuses {tr : List (ThreadAction × Output)}
    (run : (handler service σ).Run Machine.anyStep h tr h') (start : h.Refuses service) :
    h'.Refuses service ∧
      (session σ service.streamId).Run Machine.anyStep h.session (othersTrace tr) h'.session :=
  run_own run start fun _ _ _ _ refuses step => Handler.step_refuses refuses step

theorem run_rejects {tr : List (ThreadAction × Output)} (whole : Option RequestRead)
    (run : (handler service σ).Run Machine.anyStep h tr h') (start : h.Rejects service whole) :
    h'.Rejects service whole ∧
      (session σ service.streamId).Run Machine.anyStep h.session (othersTrace tr) h'.session :=
  run_own run start fun _ _ _ _ rejects step => Handler.step_rejects rejects step

omit [StateRepository σ] in
theorem start_refuses {w₀ : World σ} {entry : Entry} {input : List UInt8}
    (refused : entry.Unauthenticated service.daemon input) :
    (Handler.start w₀ entry input).Refuses service := ⟨rfl, refused⟩

/-- Behind the reads the thread writes all of its frame. -/
theorem writing_ends (service : Service) (frame : Frame) {left : List UInt8}
    (writing : h.thread = .writing left [] none)
    (cut : h.output ++ left = frameOf frame.payload) :
    ∃ tr s, (handler service σ).Run Machine.anyStep h tr s ∧ othersTrace tr = [] ∧
      s.thread = .done (.ok (.ok [])) ∧ s.output = frameOf frame.payload := by
  have writes : (handler service σ).step h (.write left.length) =
      some ({ h with thread := .writing [] [] none, output := frameOf frame.payload }, {}) := by
    simp only [handler, Handler.step, writing, List.drop_length, List.take_length, cut]
  exact ⟨_, _, (Machine.Run.one trivial writes).snoc (a := .written) trivial rfl, rfl, rfl, rfl⟩

/-- A thread that can read what it asks for reads its request and answers it. -/
theorem reading_ends {frame : Frame} {whole : Option RequestRead} {program : Blocked RequestRead}
    (answers : Handler.Answers service whole frame) (silent : h.output = [])
    (reading : h.thread = .reading true program)
    (expects : program.Expects readFailed h.unread whole) :
    ∃ tr s, (handler service σ).Run Machine.anyStep h tr s ∧ othersTrace tr = [] ∧
      s.thread = .done (.ok (.ok [])) ∧ s.output = frameOf frame.payload := by
  induction size : h.unread.length using Nat.strongRecOn generalizing h program with
  | _ size ih =>
    have enough : program.call.need ≤ h.unread.length := by
      have feeds := expects.feeds
      obtain ⟨request, rfl, _⟩ := answers
      unfold Blocked.feed at feeds
      split_ifs at feeds with enough
      exact enough
    have room := expects.room
    have long : (h.unread.take program.call.need).length = program.call.need := by
      rw [List.length_take, Nat.min_eq_left enough]
    have some : h.unread.take program.call.need ≠ [] := by
      intro empty
      rw [empty] at long
      exact absurd long (by simp; omega)
    have reads : readStream h.unread program.call.need (.bytes program.call.need) =
        .some (.ok (h.unread.take program.call.need), h.unread.drop program.call.need) := by
      simp only [readStream, List.take_take, Nat.min_self, if_neg some, long]
    have moved := Blocked.turn_expects_bytes expects
      (t := ⟨.ok (h.unread.take program.call.need),0⟩) rfl some (List.prefix_refl _)
    rw [long] at moved
    have goes : (handler service σ).step h (.read (.bytes program.call.need) 0) =
        .some (({ h with unread := h.unread.drop program.call.need }).proceed service true
          (program.turn ⟨.ok (h.unread.take program.call.need),0⟩)) := by
      simp only [handler, Handler.step, reading, reads, Option.map_some]
    cases turned : program.turn ⟨.ok (h.unread.take program.call.need),0⟩ with
    | inl next =>
      rw [turned] at moved goes
      obtain ⟨tr, s, run, own, ends⟩ := ih _ (by
        rw [← size]
        change (h.unread.drop program.call.need).length < _
        rw [List.length_drop]
        omega) (h := { h with
          thread := .reading true next
          unread := h.unread.drop program.call.need }) silent rfl moved rfl
      exact ⟨_, s, run.cons trivial goes, own, ends⟩
    | inr read =>
      rw [turned] at moved goes
      obtain rfl : whole = .some read := moved
      obtain ⟨request, same, encodes⟩ := answers
      cases same
      simp only [Handler.proceed, Handler.serveRead, if_true, Handler.reply, encodes] at goes
      obtain ⟨tr, s, run, own, ends⟩ := writing_ends service frame (h := { h with
        thread := .writing (frameOf frame.payload) [] none
        unread := h.unread.drop program.call.need }) rfl (by simp [silent])
      exact ⟨_, s, run.cons trivial goes, own, ends⟩

variable {frame : Frame} {whole : Option RequestRead}

omit [StateRepository σ] in
theorem output_of_rejects (rejects : h.Rejects service whole)
    (answers : Handler.Answers service whole frame) : h.output <+: frameOf frame.payload := by
  unfold Handler.Rejects at rejects
  cases here : h.thread with
  | entered entry | reading busy program =>
    rw [here] at rejects
    rw [rejects.1]
    exact List.nil_prefix
  | writing left rest channel =>
    rw [here] at rejects
    obtain ⟨_, _, frame', answers', cut⟩ := rejects
    rw [answers.unique answers', ← cut]
    exact List.prefix_append _ _
  | done ending =>
    rw [here] at rejects
    rcases rejects with ⟨_, part⟩ | ⟨frame', answers', _, whole⟩ | ⟨_, never⟩
    · exact part frame answers
    · rw [answers.unique answers', whole]
    · exact absurd answers (never frame)
  | _ =>
    rw [here] at rejects
    exact rejects.elim

omit [StateRepository σ] in
theorem ending_of_rejects (rejects : h.Rejects service whole)
    (answers : Handler.Answers service whole frame) (ending : Ending)
    (done : h.thread = .done ending) :
    ending = .ok (.ok []) ∧ h.output = frameOf frame.payload ∨
      ∃ message, ending = .ok (.error (.io message)) := by
  unfold Handler.Rejects at rejects
  rw [done] at rejects
  rcases rejects with ⟨failed, _⟩ | ⟨frame', answers', ends, whole⟩ | ⟨_, never⟩
  · exact .inr failed
  · rw [answers.unique answers']
    exact .inl ⟨ends, whole⟩
  · exact absurd answers (never frame)

theorem rejects_ends (rejects : h.Rejects service whole)
    (answers : Handler.Answers service whole frame) (running : ∀ ending, h.thread ≠ .done ending) :
    ∃ tr s, (handler service σ).Run Machine.anyStep h tr s ∧ othersTrace tr = [] ∧
      s.thread = .done (.ok (.ok [])) ∧ s.output = frameOf frame.payload := by
  unfold Handler.Rejects at rejects
  cases here : h.thread with
  | entered entry =>
    rw [here] at rejects
    obtain ⟨silent, timeout, rfl, feeds⟩ := rejects
    have expects := Reads.start_expects
      (readAuthenticatedRequest_failsWith service.daemon timeout) h.unread
    rw [feeds] at expects
    obtain ⟨program, started⟩ : ∃ program,
        (service.daemon.readAuthenticatedRequest timeout).start = .inl program := ⟨_, rfl⟩
    rw [started] at expects
    have enters : (handler service σ).step h .enter =
        some ({ h with thread := .reading true program }, {}) := by
      simp only [handler, Handler.step, here, Handler.enter, started, Handler.proceed]
    obtain ⟨tr, s, run, own, ends⟩ :=
      reading_ends (h := { h with thread := .reading true program }) answers silent rfl expects
    exact ⟨_, s, run.cons trivial enters, own, ends⟩
  | reading busy program =>
    rw [here] at rejects
    obtain ⟨silent, rfl, expects⟩ := rejects
    exact reading_ends answers silent here expects
  | writing left rest channel =>
    rw [here] at rejects
    obtain ⟨rfl, rfl, frame', answers', cut⟩ := rejects
    rw [answers.unique answers']
    exact writing_ends service frame' here cut
  | done ending => exact absurd here (running ending)
  | _ =>
    rw [here] at rejects
    exact rejects.elim

/-- Unauthenticated input has no effect and gets no answer. A thread that no accepted token is
presented to, whichever way its request comes in, writes and returns nothing and leaves the session
to the steps of the others, so that what is sent to it makes no difference. On the busy path no
input has an effect on the session, and an authenticated request whose reply fits gets that reply:
nothing else is written, all of it is unless an I/O operation fails, and it always can be. -/
theorem unauthenticated_input_silent {w₀ : World σ} {entry : Entry} {input : List UInt8}
    {tr : List (ThreadAction × Output)} {s : Handler σ}
    (run : (handler service σ).Run Machine.anyStep (.start w₀ entry input) tr s) :
    (entry.Unauthenticated service.daemon input →
      s.output = [] ∧ (∀ bytes, s.thread ≠ .done (.ok (.ok bytes))) ∧
      (session σ service.streamId).Run Machine.anyStep w₀ (othersTrace tr) s.session ∧
      ∀ entry' input' tr' s', entry'.Unauthenticated service.daemon input' →
        (handler service σ).Run Machine.anyStep (.start w₀ entry' input') tr' s' →
        (othersTrace tr').map Prod.fst = (othersTrace tr).map Prod.fst →
        s'.output = s.output ∧ s'.session = s.session ∧ othersTrace tr' = othersTrace tr) ∧
    ∀ timeout, entry = .busy timeout →
      (session σ service.streamId).Run Machine.anyStep w₀ (othersTrace tr) s.session ∧
      ∀ token frame rest request reply, input = utf8 token ++ frame ++ rest →
        service.daemon.launchToken.matchesHex token = .ok true →
        decodeClientRequestFrame service.daemon.requests frame = .ok request →
        Frame.encode service.responses (.failure request.requestId .serverBusy
          "The daemon has reached its concurrent connection limit") = .ok reply →
        s.output <+: frameOf reply.payload ∧
        (∀ ending, s.thread = .done ending →
          ending = .ok (.ok []) ∧ s.output = frameOf reply.payload ∨
            ∃ message, ending = .ok (.error (.io message))) ∧
        ((∀ ending, s.thread ≠ .done ending) → ∃ tr' s',
          (handler service σ).Run Machine.anyStep s tr' s' ∧ othersTrace tr' = [] ∧
            s'.thread = .done (.ok (.ok [])) ∧ s'.output = frameOf reply.payload) := by
  constructor
  · intro refused
    obtain ⟨refuses, others⟩ := run_refuses run (start_refuses refused)
    refine ⟨refuses.1, ?_, others, ?_⟩
    · intro bytes answered
      have never := refuses.2
      rw [answered] at never
      exact never bytes rfl
    · intro entry' input' tr' s' refused' run' same
      obtain ⟨refuses', others'⟩ := run_refuses run' (start_refuses refused')
      obtain ⟨trace, ends⟩ := others'.unique others same
      exact ⟨refuses'.1.trans refuses.1.symm, ends, trace⟩
  · rintro timeout rfl
    obtain ⟨rejects, others⟩ := run_rejects
      ((service.daemon.readAuthenticatedRequest timeout).feed input) run ⟨rfl, timeout, rfl, rfl⟩
    refine ⟨others, ?_⟩
    rintro token frame rest request reply rfl accepted decoded encodes
    have brought := feed_authenticated timeout rest accepted decoded
    rw [brought] at rejects
    have answers : Handler.Answers service (some (.ok (.ok request))) reply :=
      ⟨request, rfl, encodes⟩
    exact ⟨output_of_rejects rejects answers, ending_of_rejects rejects answers,
      rejects_ends rejects answers⟩

end Runs

/-- A daemon that knows one request and the reply that it is busy. -/
def busyService : Service where
  daemon := { zeroDaemon with
    requests := .ofTexts [(⟨PROTOCOL_VERSION,"a",.health,none⟩, "health")] }
  responses := .ofTexts [(Handler.busyResponse "a", "busy")]
  messages := .ofTexts []
  streamId := "s"

/-- A token of 64 ones. -/
def otherToken : String := "1111111111111111111111111111111111111111111111111111111111111111"

/-- A request with its frame, behind a token. -/
def bringHealth (token : String) : List UInt8 := utf8 token ++ frameOf (utf8 "health") ++ []

/-- The same request is answered behind the token and dropped behind another. -/
theorem unauthenticated_input_silent_busy :
    (∃ tr s, (handler busyService Empty).Run Machine.anyStep
      (.start World.new (.busy 5000) (bringHealth zeroToken)) tr s ∧
      s.thread = .done (.ok (.ok [])) ∧ s.output = frameOf (utf8 "busy")) ∧
    ∃ tr s, (handler busyService Empty).Run Machine.anyStep
      (.start World.new (.served 5000) (bringHealth otherToken)) tr s ∧
      s.output = [] ∧ ∀ bytes, s.thread ≠ .done (.ok (.ok bytes)) := by
  have answered := Machine.run_of_exec_isSome (handler busyService Empty) Machine.anyStep
    (.start World.new (.busy 5000) (bringHealth zeroToken))
    [.enter, .read (.bytes 64) 0, .read (.bytes 4) 0, .read (.bytes 6) 0] (by decide +kernel)
  have dropped := Machine.run_of_exec_isSome (handler busyService Empty) Machine.anyStep
    (.start World.new (.served 5000) (bringHealth otherToken))
    [.enter, .read (.bytes 64) 0, .read (.bytes 4) 0, .read (.bytes 6) 0] (by decide +kernel)
  constructor
  · obtain ⟨tr, s, rest, _, ends⟩ :=
      ((unauthenticated_input_silent answered).2 5000 rfl).2 zeroToken (frameOf (utf8 "health")) []
        ⟨PROTOCOL_VERSION,"a",.health,none⟩ ⟨utf8 "busy",by decide⟩ rfl (by decide +kernel)
        (by decide +kernel) (by decide +kernel) |>.2.2 nofun
    exact ⟨_, s, answered.append rest, ends⟩
  · have silent := (unauthenticated_input_silent dropped).1 ?_
    · exact ⟨_, _, dropped, silent.1, silent.2.1⟩
    intro text presented
    have front : (bringHealth otherToken).take 64 = utf8 otherToken := by decide +kernel
    rw [front, fromUTF8?_utf8] at presented
    rw [← Option.some.inj presented]
    decide +kernel

end Kesharon.Server
