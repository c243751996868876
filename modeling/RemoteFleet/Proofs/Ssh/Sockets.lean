import Mathlib.Data.List.DropRight
import Mathlib.Data.List.Nodup
import Mathlib.Data.List.Perm.Basic
import RemoteFleet.Proofs.Ssh.Connecting
import RemoteFleet.Proofs.Text.Digits

/-!
# Control sockets that are not shared

If two sessions had one control socket, the commands of one would run on the host of the other.  All
connectors of a process take the numbers of their sockets from one count, and it is the number alone
that keeps the sockets apart: directories, hosts and process identifiers may be what they like.

* The number can be read off the last part of the path (`number_eq_of_fileName_eq`), because no
  digit and no letter of `.sock` is a slash or a hyphen.
* Calls overlap: between taking its number (`SocketEvent.ask`) and making its path
  (`SocketEvent.name`) a call may be overtaken by any others.  A call that nothing comes between is
  `newSocket`, and `connect` goes on from there (`SocketEvent.connect`).
* What is true of the numbers at every moment is `Numbered`; one event keeps it (`Numbered.step`),
  and so do all (`Numbered.follow`).
* A session has the socket that was made for it (`socket_of_connect`).

The count starts again after its last number, so that all this goes for as many calls as there are
numbers, wherever the count begins.
-/

namespace RemoteFleet

variable {Net Master : Type}

namespace Ssh

/-! ## The number in a path -/

/-- The end of a text in which a character does not occur. -/
def lastPart (c : Char) (s : List Char) : List Char := s.rtakeWhile (· ≠ c)

/-- What stands behind the last slash of a path. -/
def fileName (path : String) : List Char := lastPart '/' path.toList

theorem lastPart_append {c : Char} {s : List Char} (h : c ∉ s) (front : List Char) :
    lastPart c (front ++ s) = lastPart c front ++ s := by
  have hall : ∀ d ∈ s.reverse, decide (d ≠ c) = true := by
    intro d hd
    have hne : d ≠ c := fun heq => h (heq ▸ List.mem_reverse.1 hd)
    exact decide_eq_true hne
  unfold lastPart List.rtakeWhile
  rw [List.reverse_append, List.takeWhile_append_of_pos hall, List.reverse_append,
    List.reverse_reverse]

theorem lastPart_concat (c : Char) (front : List Char) : lastPart c (front ++ [c]) = [] :=
  List.rtakeWhile_concat_neg _ _ _ (by simp)

theorem lastPart_append_cons {c : Char} {s : List Char} (h : c ∉ s) (front : List Char) :
    lastPart c (front ++ c :: s) = s := by
  rw [← List.singleton_append, ← List.append_assoc, lastPart_append h, lastPart_concat,
    List.nil_append]

/-- The end of the name of a socket: its number, and what it is. -/
def nameEnd (number : UInt64) : List Char := Text.decimal number.toNat ++ ".sock".toList

theorem nameEnd_injective {number other : UInt64} (h : nameEnd number = nameEnd other) :
    number = other := by
  have hdigits : Text.decimal number.toNat = Text.decimal other.toNat :=
    List.append_cancel_right h
  have hvalues := congrArg Text.digitsValue hdigits
  rw [Text.digitsValue_decimal, Text.digitsValue_decimal] at hvalues
  exact UInt64.toNat_inj.1 hvalues

theorem not_mem_nameEnd {c : Char} (hdigit : c.isDigit = false) (hend : c ∉ ".sock".toList)
    (number : UInt64) : c ∉ nameEnd number := by
  intro hmem
  rcases List.mem_append.1 hmem with hmem | hmem
  · exact Bool.false_ne_true (hdigit.symm.trans (Text.isDigit_of_mem_decimal hmem))
  · exact hend hmem

/-- A path ends with the name that is put inside the directory. -/
theorem exists_toList_inside (directory name : String) :
    ∃ front, (inside directory name).toList = front ++ name.toList := by
  unfold inside
  split
  · exact ⟨[], rfl⟩
  · split
    · exact ⟨directory.toList, String.toList_append⟩
    · exact ⟨directory.toList ++ "/".toList, by rw [String.toList_append, String.toList_append]⟩

theorem toList_socketName (processId : String) (index : UInt32) (number : UInt64) :
    (socketName processId index number).toList =
      ("fr-" ++ processId ++ "-" ++ Text.decimalString index.toNat).toList ++
        '-' :: nameEnd number := by
  simp [socketName, nameEnd, Text.decimalString]

/-- The number stands behind the last hyphen, and that stands behind the last slash. -/
theorem lastPart_fileName (directory processId : String) (index : UInt32) (number : UInt64) :
    lastPart '-' (fileName (inside directory (socketName processId index number))) =
      nameEnd number := by
  have hhyphen : '-' ∉ nameEnd number := not_mem_nameEnd (by decide) (by decide) number
  have hslash : '/' ∉ '-' :: nameEnd number := by
    rw [List.mem_cons, not_or]
    exact ⟨by decide, not_mem_nameEnd (by decide) (by decide) number⟩
  obtain ⟨front, hfront⟩ := exists_toList_inside directory (socketName processId index number)
  rw [fileName, hfront, toList_socketName, ← List.append_assoc, lastPart_append hslash,
    lastPart_append_cons hhyphen]

/-! ## Calls -/

/-- A call that has its number. -/
structure SocketCall where
  options : SshOptions
  target : RemoteTarget
  number : UInt64

/-- What can happen while sockets are asked for. -/
inductive SocketEvent (Net : Type) where
  /-- A connector takes a number, for the session with a host. -/
  | ask (o : SshOptions) (target : RemoteTarget)
  /-- One of the calls that have their numbers makes its path. -/
  | name (place : Nat)
  /-- A connector opens a session, and no other call comes between. -/
  | connect (o : SshOptions) (target : RemoteTarget)
  /-- Something else happens to the machine. -/
  | other (change : Net → Net)

/-- The process, the calls that have no paths yet, those that have, and the sessions. -/
structure SocketDesk (Net Master : Type) where
  process : SshProcess Net
  waiting : List SocketCall := []
  named : List (SocketCall × String) := []
  sessions : List (SshSession Master) := []

/-- What the call that begins with an event is for, if one does. -/
def SocketEvent.asked? : SocketEvent Net → Option (SshOptions × RemoteTarget)
  | .ask o target => some (o, target)
  | .connect o target => some (o, target)
  | _ => none

/-- All calls that have begun. -/
def SocketDesk.calls (desk : SocketDesk Net Master) : List SocketCall :=
  desk.waiting ++ desk.named.map Prod.fst

/-- The sockets that were made. -/
def SocketDesk.paths (desk : SocketDesk Net Master) : List String := desk.named.map Prod.snd

/-- Calls with one number after the other. -/
def numbered (first : UInt64) (asked : List (SshOptions × RemoteTarget)) : List SocketCall :=
  asked.mapIdx fun k call => ⟨call.1, call.2, first + UInt64.ofNat k⟩

theorem numbered_concat (first : UInt64) (asked : List (SshOptions × RemoteTarget))
    (o : SshOptions) (target : RemoteTarget) :
    numbered first (asked ++ [(o, target)]) =
      numbered first asked ++ [⟨o, target, first + UInt64.ofNat asked.length⟩] :=
  List.mapIdx_concat

theorem map_numbered (first : UInt64) (asked : List (SshOptions × RemoteTarget)) :
    ((numbered first asked).map fun call => (call.options, call.target)) = asked :=
  List.ext_getElem (by simp [numbered]) (by simp [numbered])

/-- No number is given twice before all of them were. -/
theorem nodup_numbered (first : UInt64) {asked : List (SshOptions × RemoteTarget)}
    (h : asked.length ≤ UInt64.size) :
    ((numbered first asked).map SocketCall.number).Nodup := by
  rw [List.nodup_iff_pairwise_ne, List.pairwise_iff_getElem]
  intro i j hi hj hij heq
  have hlength : ((numbered first asked).map SocketCall.number).length = asked.length := by
    simp [numbered]
  have hsame : first + UInt64.ofNat i = first + UInt64.ofNat j := by
    simpa [numbered] using heq
  have hplaces := congrArg UInt64.toNat ((UInt64.add_right_inj first).1 hsame)
  rw [UInt64.toNat_ofNat_of_lt' (by omega), UInt64.toNat_ofNat_of_lt' (by omega)] at hplaces
  omega

section Client

variable (client : SshClient Net Master)

/-- The path of a call that has its number, on the machine as it is. -/
def SocketCall.path (call : SocketCall) (net : Net) : String :=
  socketPath client call.options call.target call.number net

/-- What one event does. -/
def SocketDesk.step (desk : SocketDesk Net Master) : SocketEvent Net → SocketDesk Net Master
  | .ask o target =>
    let (number, process) := desk.process.takeNumber
    { desk with process, waiting := desk.waiting ++ [⟨o, target, number⟩] }
  | .name place =>
    match desk.waiting[place]? with
    | none => desk
    | some call =>
      { desk with
        waiting := desk.waiting.eraseIdx place
        named := desk.named ++ [(call, call.path client desk.process.net)] }
  | .connect o target =>
    let socket := (newSocket client o target desk.process).1
    let (attempt, process) := Ssh.connect client o target desk.process
    { desk with
      process
      named := desk.named ++ [(⟨o, target, desk.process.nextNumber⟩, socket)]
      sessions := desk.sessions ++ attempt.session?.toList }
  | .other change => { desk with process := { desk.process with net := change desk.process.net } }

/-- What events do one after the other. -/
def SocketDesk.follow (desk : SocketDesk Net Master) (events : List (SocketEvent Net)) :
    SocketDesk Net Master :=
  events.foldl (SocketDesk.step client) desk

/-- What is true when some calls have begun, the first with the number `first`. -/
structure Numbered (first : UInt64) (asked : List (SshOptions × RemoteTarget))
    (desk : SocketDesk Net Master) : Prop where
  next : desk.process.nextNumber = first + UInt64.ofNat asked.length
  calls : desk.calls.Perm (numbered first asked)
  paths : ∀ p ∈ desk.named, ∃ net, p.2 = p.1.path client net
  sockets : (desk.sessions.map SshSession.socket).Sublist desk.paths

variable {client} {first : UInt64} {asked : List (SshOptions × RemoteTarget)}
  {desk : SocketDesk Net Master}

/-- The number that is given next. -/
theorem Numbered.calls_concat (h : Numbered client first asked desk) (o : SshOptions)
    (target : RemoteTarget) :
    (desk.calls ++ [(⟨o, target, desk.process.nextNumber⟩ : SocketCall)]).Perm
      (numbered first (asked ++ [(o, target)])) := by
  rw [numbered_concat, ← h.next]
  exact h.calls.append_right _

theorem Numbered.next_concat (h : Numbered client first asked desk) (o : SshOptions)
    (target : RemoteTarget) :
    desk.process.nextNumber + 1 = first + UInt64.ofNat (asked ++ [(o, target)]).length := by
  rw [h.next, List.length_append, List.length_singleton, UInt64.ofNat_add, UInt64.add_assoc]
  rfl

theorem Numbered.ask (h : Numbered client first asked desk) (o : SshOptions)
    (target : RemoteTarget) :
    Numbered client first (asked ++ [(o, target)]) (desk.step client (.ask o target)) where
  next := h.next_concat o target
  calls := by
    refine List.Perm.trans ?_ (h.calls_concat o target)
    show ((desk.waiting ++ [_]) ++ desk.named.map Prod.fst).Perm
      ((desk.waiting ++ desk.named.map Prod.fst) ++ [_])
    rw [List.append_assoc, List.append_assoc]
    exact List.perm_append_comm.append_left desk.waiting
  paths := h.paths
  sockets := h.sockets

theorem Numbered.name (h : Numbered client first asked desk) (place : Nat) :
    Numbered client first asked (desk.step client (.name place)) := by
  cases hcall : desk.waiting[place]? with
  | none =>
    have hsame : desk.step client (.name place) = desk := by
      simp only [SocketDesk.step, hcall]
    rw [hsame]
    exact h
  | some call =>
    obtain ⟨hplace, rfl⟩ := List.getElem?_eq_some_iff.1 hcall
    have hnamed : desk.step client (.name place) =
        { desk with
          waiting := desk.waiting.eraseIdx place
          named := desk.named ++
            [(desk.waiting[place], desk.waiting[place].path client desk.process.net)] } := by
      simp only [SocketDesk.step, hcall]
    rw [hnamed]
    refine ⟨h.next, ?_, ?_, ?_⟩
    · -- The call is only somewhere else among all the calls.
      refine List.Perm.trans ?_ h.calls
      show (desk.waiting.eraseIdx place ++ (desk.named ++ [_]).map Prod.fst).Perm
        (desk.waiting ++ desk.named.map Prod.fst)
      rw [List.map_append, List.map_singleton, ← List.append_assoc]
      refine (List.perm_append_singleton _ _).trans ?_
      rw [← List.cons_append]
      exact (List.getElem_cons_eraseIdx_perm hplace).append_right _
    · intro p hp
      rcases List.mem_append.1 hp with hp | hp
      · exact h.paths p hp
      · obtain rfl := List.mem_singleton.1 hp
        exact ⟨desk.process.net, rfl⟩
    · show (desk.sessions.map SshSession.socket).Sublist ((desk.named ++ [_]).map Prod.snd)
      rw [List.map_append]
      exact h.sockets.trans (List.sublist_append_left _ _)

theorem Numbered.connect (h : Numbered client first asked desk) (o : SshOptions)
    (target : RemoteTarget) :
    Numbered client first (asked ++ [(o, target)]) (desk.step client (.connect o target)) where
  next := h.next_concat o target
  calls := by
    refine List.Perm.trans ?_ (h.calls_concat o target)
    show (desk.waiting ++ (desk.named ++ [_]).map Prod.fst).Perm
      ((desk.waiting ++ desk.named.map Prod.fst) ++ [_])
    rw [List.map_append, List.append_assoc]
    rfl
  paths := by
    intro p hp
    rcases List.mem_append.1 hp with hp | hp
    · exact h.paths p hp
    · obtain rfl := List.mem_singleton.1 hp
      exact ⟨desk.process.net, rfl⟩
  sockets := by
    have hlast : ((Ssh.connect client o target desk.process).1.session?.toList.map
        SshSession.socket).Sublist [(newSocket client o target desk.process).1] := by
      cases hsession : (Ssh.connect client o target desk.process).1.session? with
      | none => exact List.nil_sublist _
      | some session =>
        show [session.socket].Sublist _
        rw [socket_of_connect hsession]
    show ((desk.sessions ++ _).map SshSession.socket).Sublist ((desk.named ++ [_]).map Prod.snd)
    rw [List.map_append, List.map_append]
    exact h.sockets.append hlast

/-- Whatever happens, the calls that have begun have one number after the other. -/
theorem Numbered.step (h : Numbered client first asked desk) (event : SocketEvent Net) :
    Numbered client first (asked ++ event.asked?.toList) (desk.step client event) := by
  cases event with
  | ask o target => exact h.ask o target
  | name place =>
    show Numbered client first (asked ++ []) _
    rw [List.append_nil]
    exact h.name place
  | connect o target => exact h.connect o target
  | other change =>
    show Numbered client first (asked ++ []) _
    rw [List.append_nil]
    exact ⟨h.next, h.calls, h.paths, h.sockets⟩

theorem Numbered.follow (h : Numbered client first asked desk) (events : List (SocketEvent Net)) :
    Numbered client first (asked ++ events.filterMap SocketEvent.asked?)
      (desk.follow client events) := by
  induction events generalizing asked desk with
  | nil =>
    rw [List.filterMap_nil, List.append_nil]
    exact h
  | cons event events ih =>
    have hrest := ih (h.step event)
    have hasked : (event :: events).filterMap SocketEvent.asked? =
        event.asked?.toList ++ events.filterMap SocketEvent.asked? := by
      cases hevent : event.asked? <;> simp [hevent]
    rw [hasked, ← List.append_assoc]
    exact hrest

/-- Before the first call. -/
theorem numbered_begin (client : SshClient Net Master) (process : SshProcess Net) :
    Numbered client process.nextNumber [] ⟨process, [], [], []⟩ where
  next := (UInt64.add_zero _).symm
  calls := List.Perm.refl _
  paths := nofun
  sockets := List.nil_sublist _

/-- The number of a call can be read off the last part of its path. -/
theorem number_eq_of_fileName_eq {call other : SocketCall} {net later : Net}
    (h : fileName (call.path client net) = fileName (other.path client later)) :
    call.number = other.number := by
  have hends := congrArg (lastPart '-') h
  unfold SocketCall.path socketPath at hends
  rw [lastPart_fileName, lastPart_fileName] at hends
  exact nameEnd_injective hends

/-- Calls with different numbers have paths with different last parts. -/
theorem Numbered.nodup_fileNames (h : Numbered client first asked desk)
    (hasked : asked.length ≤ UInt64.size) : (desk.paths.map fileName).Nodup := by
  have hall : (desk.calls.map SocketCall.number).Nodup :=
    (h.calls.map SocketCall.number).nodup_iff.2 (nodup_numbered first hasked)
  have hnumbers : (desk.named.map fun p => p.1.number).Nodup := by
    rw [SocketDesk.calls, List.map_append, List.map_map] at hall
    exact hall.of_append_right
  rw [SocketDesk.paths, List.map_map]
  refine List.Nodup.map_on ?_ hnumbers.of_map
  intro p hp q hq heq
  obtain ⟨net, hpath⟩ := h.paths p hp
  obtain ⟨later, hother⟩ := h.paths q hq
  simp only [Function.comp, hpath, hother] at heq
  exact List.inj_on_of_nodup_map hnumbers hp hq (number_eq_of_fileName_eq heq)

/-- However calls overlap, and whatever connectors, directories and hosts they are for: no two of
them get one path, nor even paths that end in one name.  What was asked for is what still waits for
its path and what has it.  So no two sessions that are opened have one socket. -/
theorem sockets_not_shared (client : SshClient Net Master) (process : SshProcess Net)
    {events : List (SocketEvent Net)}
    (hcalls : (events.filterMap SocketEvent.asked?).length ≤ UInt64.size)
    {left : SocketDesk Net Master}
    (hleft : SocketDesk.follow client ⟨process, [], [], []⟩ events = left) :
    (left.calls.map fun call => (call.options, call.target)).Perm
        (events.filterMap SocketEvent.asked?) ∧
      (∀ p ∈ left.named, ∃ net,
        p.2 = socketPath client p.1.options p.1.target p.1.number net) ∧
      left.paths.Nodup ∧ (left.paths.map fileName).Nodup ∧
      (left.sessions.map SshSession.socket).Sublist left.paths ∧
      (left.sessions.map SshSession.socket).Nodup := by
  have hend := (numbered_begin client process).follow events
  rw [hleft, List.nil_append] at hend
  have hnames := hend.nodup_fileNames hcalls
  have hasked := hend.calls.map fun call => (call.options, call.target)
  rw [map_numbered] at hasked
  exact ⟨hasked, hend.paths, hnames.of_map, hnames, hend.sockets,
    hnames.of_map.sublist hend.sockets⟩

end Client

/-! ### The last number and the ones after it -/

/-- A process that has one number left before the count starts again. -/
def lastNumber : SshProcess ScriptedNet where
  net := { files := .empty, client := some ["ssh"] }
  nextNumber := 0xFFFFFFFFFFFFFFFF

/-- Four calls for one host, three of them with sockets in the working directory.  The first is
overtaken by a call for another directory and by two that open sessions, while the clock moves
on. -/
def overtaking : List (SocketEvent ScriptedNet) :=
  let target : RemoteTarget := ⟨1, "a", "ec2-user", none, 22⟩
  [.ask localOptions target, .ask {} target, .name 1, .connect localOptions target,
    .other (ScriptedNet.sshClient.sleepMs 100), .connect localOptions target, .name 0]

theorem sockets_not_shared_overtaking :
    ∃ left, SocketDesk.follow ScriptedNet.sshClient ⟨lastNumber, [], [], []⟩ overtaking = left ∧
      left.paths = ["/tmp/fr-PID-1-0.sock", "./fr-PID-1-1.sock", "./fr-PID-1-2.sock",
        "./fr-PID-1-18446744073709551615.sock"] ∧
      left.sessions.map SshSession.socket = ["./fr-PID-1-1.sock", "./fr-PID-1-2.sock"] ∧
      left.paths.Nodup ∧ (left.sessions.map SshSession.socket).Nodup := by
  have hfour : (overtaking.filterMap SocketEvent.asked?).length = 4 := rfl
  have hcalls : (overtaking.filterMap SocketEvent.asked?).length ≤ UInt64.size := by
    rw [hfour]
    decide
  obtain ⟨-, -, hdistinct, -, -, hsessions⟩ :=
    sockets_not_shared ScriptedNet.sshClient lastNumber hcalls rfl
  exact ⟨_, rfl, by decide +kernel, by decide +kernel, hdistinct, hsessions⟩

end Ssh

end RemoteFleet
