import RbFeeder.Net.NetworkProofs
import RbFeeder.Net.ReaderProofs

/-! The clients of a service are counted.

At the end of every operation a service's `connections` is the number of its clients,
and a client without a service has no file descriptor (`Accounted`). The operations
dereference a NULL service in one place only: `moveNetClient` flushes the client's
old service, and if the write to the client itself is not complete, the flush closes
the client. A run is free of faults exactly if no such write happens in it
(`accounting`). -/
namespace RbFeeder.Net
open ModeS (Byte)

namespace Network
variable {env : Environment} {net net' : Network} {c : ClientId}

/-- What holds of the network between two operations. -/
structure Accounted (net : Network) : Prop where
  tallied : Tallied (fun _ => 0) net
  fd : ∀ c ∈ net.clients, (net.client c).service = none ↔ (net.client c).fd = -1
  fresh : ∀ c ∈ net.clients, c < net.malloc

/-! ### The operations -/

theorem Accounted.closes {S : Service → Prop} (hA : Accounted net) (h : Closes S net net') :
    Accounted net' := by
  refine ⟨h.tallied _ hA.tallied, fun c hc => ?_, fun c hc => ?_⟩
  · rw [h.clients] at hc
    rcases h.client c with heq | ⟨hclosed, -⟩
    · rw [heq]
      exact hA.fd c hc
    · rw [hclosed]
      exact ⟨fun _ => rfl, fun _ => rfl⟩
  · rw [h.malloc]
    exact hA.fresh c (h.clients ▸ hc)

theorem Accounted.modesCloseClient (hA : Accounted net) (c : ClientId) :
    Accounted (net.modesCloseClient env c) := by
  cases hs : net.service c with
  | none => rwa [modesCloseClient_of_none env hs]
  | some s => exact hA.closes (closes_modesCloseClient env (· = s) rfl hs)

/-- Moving a client makes it active, whether it was or not. -/
theorem Accounted.moves (htallied : Tallied (fun _ => 0) net) (hfresh : ∀ c ∈ net.clients, c < net.malloc)
    (hfd : ∀ c' ∈ net.clients, c' ≠ c →
      ((net.client c').service = none ↔ (net.client c').fd = -1))
    (hc : (net.client c).fd ≠ -1) {t : Service} (h : Moves c t net net') : Accounted net' := by
  refine ⟨h.tallied _ htallied, fun c' hc' => ?_, fun c' hc' => ?_⟩
  · rw [h.clients] at hc'
    by_cases hself : c' = c
    · rw [hself, h.client_self]
      exact ⟨fun hnone => (by cases hnone), fun hclosed => absurd hclosed hc⟩
    · rcases h.client_of_ne c' hself with heq | hclosed
      · rw [heq]
        exact hfd c' hc' hself
      · rw [hclosed]
        exact ⟨fun _ => rfl, fun _ => rfl⟩
  · rw [h.malloc]
    exact hfresh c' (h.clients ▸ hc')

/-- An active client has a file descriptor. -/
theorem Accounted.fd_ne (hA : Accounted net) {s : Service} (hc : net.service c = some s) :
    c ∈ net.clients ∧ (net.client c).fd ≠ -1 := by
  have hin := hA.tallied.listed c (by rw [hc]; simp)
  refine ⟨hin, fun hfd => ?_⟩
  have hnone : net.service c = none := (hA.fd c hin).mpr hfd
  rw [hc] at hnone
  cases hnone

theorem Accounted.moveNetClient (hA : Accounted net) {s t : Service} (hc : net.service c = some s)
    (hmove : net.moveNetClient env c (some t) = .ok net') : Accounted net' ∧ Moves c t net net' := by
  obtain ⟨hin, hfd⟩ := hA.fd_ne hc
  have hmoves := moveNetClient_moves hA.tallied hin hmove
  exact ⟨.moves hA.tallied hA.fresh (fun c' hc' _ => hA.fd c' hc') hfd hmoves, hmoves⟩

/-- The state in which `createGenericClient` calls `moveNetClient`. -/
theorem createGenericClient_start (hA : Accounted net) (fd : Nat) :
    let net₁ := ({ net with clients := net.malloc :: net.clients, malloc := net.malloc + 1 } :
      Network).setClient net.malloc ⟨fd, none, false⟩
    Tallied (fun _ => 0) net₁ ∧ (∀ c ∈ net₁.clients, c < net₁.malloc) ∧
      (∀ c' ∈ net₁.clients, c' ≠ net.malloc →
        ((net₁.client c').service = none ↔ (net₁.client c').fd = -1)) ∧
      (net₁.client net.malloc).fd ≠ -1 ∧ net₁.service net.malloc = none := by
  intro net₁
  have hnew : net.malloc ∉ net.clients := fun hin => lt_irrefl _ (hA.fresh _ hin)
  have hidle : net.service net.malloc = none := by
    by_contra hactive
    exact hnew (hA.tallied.listed _ hactive)
  have hlisted : Tallied (fun _ => 0)
      { net with clients := net.malloc :: net.clients, malloc := net.malloc + 1 } := by
    refine ⟨List.nodup_cons.mpr ⟨hnew, hA.tallied.nodup⟩,
      fun c hc => List.mem_cons_of_mem _ (hA.tallied.listed c hc), fun s => ?_⟩
    have hcount := hA.tallied.connections s
    change net.connections s = ((net.malloc :: net.clients).countP fun c => net.service c = some s : Nat) + 0
    rw [List.countP_cons_of_neg (by simp [hidle])]
    exact hcount
  refine ⟨(hlisted.setClient List.mem_cons_self _).of_eq fun s => ?_, fun c hc => ?_,
    fun c hc hne => ?_, ?_, ?_⟩
  · have hidle' : ({ net with clients := net.malloc :: net.clients, malloc := net.malloc + 1 } :
      Network).service net.malloc = none := hidle
    rw [hidle']
    simp
  · rcases List.mem_cons.mp hc with rfl | hc
    · exact Nat.lt_succ_self _
    · exact Nat.lt_succ_of_lt (hA.fresh c hc)
  · have hc : c ∈ net.clients := (List.mem_cons.mp hc).resolve_left hne
    simp only [net₁, setClient, Function.update_of_ne hne]
    exact hA.fd c hc
  · simp only [net₁, setClient, Function.update_self]
    omega
  · exact service_setClient_self ..

variable (env) in
theorem Accounted.createGenericClient (hA : Accounted net) (s : Service) (fd : Nat) :
    ∃ net', net.createGenericClient env s fd = .ok net' ∧ Accounted net' := by
  obtain ⟨htallied, hfresh, hfd, hnew, hidle⟩ := createGenericClient_start hA fd
  obtain ⟨net', hmove⟩ := (moveNetClient_ok_iff env net.malloc htallied (some s)).mpr
    fun t ht => by rw [hidle] at ht; cases ht
  exact ⟨net', hmove, .moves htallied hfresh hfd hnew
    (moveNetClient_moves htallied List.mem_cons_self hmove)⟩

theorem Accounted.prune (hA : Accounted net) : Accounted net.prune := by
  have hactive : ∀ c ∈ net.clients, net.service c ≠ none → (net.client c).fd ≠ -1 :=
    fun c hc hactive hfd => hactive ((hA.fd c hc).mpr hfd)
  refine ⟨⟨hA.tallied.nodup.filter _, fun c hc => ?_, fun s => ?_⟩, fun c hc => ?_, fun c hc => ?_⟩
  · have hin := hA.tallied.listed c hc
    exact List.mem_filter.mpr ⟨hin, decide_eq_true (hactive c hin hc)⟩
  · have hcount := hA.tallied.connections s
    have hsame : net.prune.members s = net.members s := by
      simp only [members, Network.prune, List.countP_filter]
      refine List.countP_congr fun c hc => ?_
      change (decide (net.service c = some s) && decide ((net.client c).fd ≠ -1)) = true ↔ _
      simp only [Bool.and_eq_true, decide_eq_true_eq, and_iff_left_iff_imp]
      exact fun hs => hactive c hc (by rw [hs]; simp)
    rw [hsame]
    exact hcount
  · exact hA.fd c (List.mem_of_mem_filter hc)
  · exact hA.fresh c (List.mem_of_mem_filter hc)

theorem Accounted.sameServices (hA : Accounted net) (h : SameServices net net') : Accounted net' := by
  refine ⟨h.tallied hA.tallied, fun c hc => ?_, fun c hc => ?_⟩
  · have hservice : (net'.client c).service = (net.client c).service := congrFun h.service c
    rw [hservice, h.fd c]
    exact hA.fd c (h.clients ▸ hc)
  · rw [h.malloc]
    exact hA.fresh c (h.clients ▸ hc)

/-! ### Reading -/

/-- The client is read from: its service has this mode and this handler, also after
a command has changed the service. -/
structure Reading (mode : ReadMode) (handler : ReadHandler) (c : ClientId) (net : Network) : Prop where
  accounted : Accounted net
  active : ∃ s, net.service c = some s ∧ s.read_mode = mode ∧ s.read_handler = some handler

/-- The move that a message asks for, if it is a command, leaves the client open. -/
def MessageSurvives (env : Environment) (c : ClientId) (net : Network) (p : List Byte) : Prop :=
  (net.service c).bind Service.read_handler = some .handleBeastCommand →
    ∀ t, commandTarget p = some t → net.Survives env c (some t)

/-- A service with a handler for commands reads commands, and one with another
handler has no writer. -/
theorem read_handler_cases (s : Service) {handler : ReadHandler} (h : s.read_handler = some handler) :
    (handler = .handleBeastCommand ∧ s.read_mode = .beastCommand) ∨
      (handler ≠ .handleBeastCommand ∧ s.writer = false) := by
  cases s <;> cases h <;> simp [Service.read_mode, Service.writer]

variable {mode : ReadMode} {handler : ReadHandler}

variable (env) in
/-- **One message**: the handler returns unless the client does not survive a move,
and the client stays one of the kind of service it is. -/
theorem callHandler_spec (h : Reading mode handler c net) (p : List Byte) :
    ((∃ net', callHandler env c net p = .ok net') ↔ MessageSurvives env c net p) ∧
      ∀ net', callHandler env c net p = .ok net' → Reading mode handler c net' := by
  obtain ⟨s, hs, hmode, hhandler⟩ := h.active
  have hA := h.accounted
  rcases read_handler_cases s hhandler with ⟨rfl, hcommand⟩ | ⟨hne, hwriter⟩
  · have hcall : callHandler env c net p = net.handleBeastCommand env c p := by
      simp only [callHandler, hs, hhandler]
    have hbind : (net.service c).bind Service.read_handler = some .handleBeastCommand := by
      rw [hs]
      exact hhandler
    rw [hcall]
    rcases handleBeastCommand_cases env net c p with ⟨t, ht, hthandler, htmode, heq⟩ | ⟨hnone, net', heq, hsame⟩
    · rw [heq, moveNetClient_ok_iff env c hA.tallied]
      refine ⟨⟨fun hsurvives _ t' ht' => ?_, fun hsurvives => hsurvives hbind t ht⟩, fun net' hmove => ?_⟩
      · obtain rfl : t = t' := Option.some.inj (ht.symm.trans ht')
        exact hsurvives
      · obtain ⟨hA', hmoves⟩ := hA.moveNetClient hs hmove
        refine ⟨hA', t, ?_, htmode.trans (hcommand.symm.trans hmode), hthandler⟩
        rw [service, hmoves.client_self]
    · rw [heq]
      refine ⟨⟨fun _ _ t ht => ?_, fun _ => ⟨net', rfl⟩⟩, fun net'' heq' => ?_⟩
      · rw [hnone] at ht
        cases ht
      · cases heq'
        exact ⟨hA.sameServices hsame, s, by rw [hsame.service, hs], hmode, hhandler⟩
  · have hcall : callHandler env c net p = .ok (net.decode env) := by
      cases handler <;> simp_all [callHandler]
    have hcloses := closes_decode env net
    have hkept : (net.decode env).client c = net.client c := by
      refine hcloses.client_of_not fun s' hs' hwriter' => ?_
      obtain rfl : s = s' := Option.some.inj (hs.symm.trans hs')
      rw [hwriter] at hwriter'
      cases hwriter'
    rw [hcall]
    refine ⟨⟨fun _ hbind => ?_, fun _ => ⟨_, rfl⟩⟩, fun net' heq => ?_⟩
    · rw [hs] at hbind
      exact absurd (Option.some.inj (hhandler.symm.trans hbind)) hne
    · cases heq
      exact ⟨hA.closes hcloses, s, by rw [service, hkept]; exact hs, hmode, hhandler⟩

/-- The look at the separator never faults: the client is still active. -/
theorem handleMessage_eq (h : Reading mode handler c net) (p : List Byte) :
    handleMessage env mode c net p = callHandler env c net p := by
  rw [handleMessage]
  cases hcall : callHandler env c net p with
  | error fault => rfl
  | ok net' =>
    obtain ⟨s, hs, -, -⟩ := ((callHandler_spec env h p).2 net' hcall).active
    simp only [Except.bind, hs]

variable (env mode handler c) in
theorem handleMessage_reading (net : Network) (p : List Byte) (net' : Network)
    (h : Reading mode handler c net) (hok : handleMessage env mode c net p = .ok net') :
    Reading mode handler c net' := by
  rw [handleMessage_eq h] at hok
  exact (callHandler_spec env h p).2 net' hok

theorem handleMessage_ok_iff (net : Network) (p : List Byte) (h : Reading mode handler c net) :
    (∃ net', handleMessage env mode c net p = .ok net') ↔ MessageSurvives env c net p := by
  rw [handleMessage_eq h]
  exact (callHandler_spec env h p).1

/-- **The read loop of a client is the run of its handler over the messages that
the scanner finds**, whether the handler changes the client's service or not. -/
theorem modesReadFromClient_eq (results : List ReadResult) (h : Reading mode handler c net)
    (buf : List Byte) :
    net.modesReadFromClient env c buf results =
      (Runs.run (handleMessage env mode c) net (Net.modesReadFromClient mode buf results).calls).map
        fun net => (if (Net.modesReadFromClient mode buf results).closed then
          net.modesCloseClient env c else net, (Net.modesReadFromClient mode buf results).buf) := by
  induction results generalizing net buf with
  | nil => rfl
  | cons result results ih =>
    cases result with
    | eof | error | again => rfl
    | data bytes =>
      obtain ⟨s, hs, rfl, hhandler⟩ := h.active
      simp only [Network.modesReadFromClient, Net.modesReadFromClient, hs]
      cases hround : Runs.run (handleMessage env s.read_mode c) net
          (readRound s.read_mode buf bytes).1 with
      | error fault =>
        split
        · rw [Runs.run_append, hround]
          rfl
        · rw [hround]
          rfl
      | ok net₁ =>
        have h₁ : Reading s.read_mode handler c net₁ :=
          Runs.run_invariant (handleMessage_reading env c s.read_mode handler) h hround
        simp only [Except.bind]
        split
        · rw [ih h₁, Runs.run_append, hround]
          rfl
        · rw [hround]
          rfl

end Network

/-! ### Runs -/

namespace System
variable {env : Environment} {sys sys' : System}

/-- No move of the operation closes the client that is moved. -/
def Survives (env : Environment) (sys : System) : Op → Prop
  | .command c p => sys.active c → Network.MessageSurvives env c sys.net p
  | .move c s => sys.active c → sys.net.Survives env c (some s)
  | .read c results => sys.active c → sys.handler c ≠ none → ∀ s, sys.net.service c = some s →
      Runs.Along (Network.handleMessage env s.read_mode c) (Network.MessageSurvives env c) sys.net
        (modesReadFromClient s.read_mode (sys.buf c) results).calls
  | _ => True

variable (env) in
/-- The iteration of the loop over the clients: the handler is called for each message
that the scanner finds. -/
theorem read_spec (hA : sys.net.Accounted) {c : ClientId} {s : Service} {handler : ReadHandler}
    (hs : sys.net.service c = some s) (hhandler : s.read_handler = some handler)
    (results : List ReadResult) :
    ((∃ out, sys.net.modesReadFromClient env c (sys.buf c) results = .ok out) ↔
        Runs.Along (Network.handleMessage env s.read_mode c) (Network.MessageSurvives env c) sys.net
          (modesReadFromClient s.read_mode (sys.buf c) results).calls) ∧
      ∀ out, sys.net.modesReadFromClient env c (sys.buf c) results = .ok out → out.1.Accounted := by
  have hreading : Network.Reading s.read_mode handler c sys.net := ⟨hA, s, hs, rfl, hhandler⟩
  have hstep := Network.handleMessage_reading env c s.read_mode handler
  rw [Network.modesReadFromClient_eq results hreading, Runs.exists_map_ok]
  refine ⟨Runs.run_ok_iff hstep Network.handleMessage_ok_iff _ hreading, fun out hout => ?_⟩
  obtain ⟨net', hrun, rfl⟩ := Runs.map_ok.mp hout
  have hA' := (Runs.run_invariant hstep hreading hrun).accounted
  dsimp only
  split
  · exact hA'.modesCloseClient c
  · exact hA'

/-- **One operation**: it faults exactly if a move closes the client that is moved,
and keeps the accounts. -/
theorem step_spec (hA : sys.net.Accounted) (op : Op) :
    ((∃ sys', step env sys op = .ok sys') ↔ Survives env sys op) ∧
      ∀ sys', step env sys op = .ok sys' → sys'.net.Accounted := by
  have hskip : ∀ {net : Network} {P : Prop}, P → net.Accounted →
      ((∃ sys', (.ok ⟨net, sys.buf⟩ : Except Fault System) = .ok sys') ↔ P) ∧
        ∀ sys', (.ok ⟨net, sys.buf⟩ : Except Fault System) = .ok sys' → sys'.net.Accounted := by
    intro net P hP hnet
    refine ⟨⟨fun _ => hP, fun _ => ⟨_, rfl⟩⟩, fun sys' h => ?_⟩
    cases h
    exact hnet
  cases op with
  | create s fd =>
    obtain ⟨net', hcreate, hA'⟩ := hA.createGenericClient env s fd
    simp only [step, hcreate]
    exact ⟨⟨fun _ => trivial, fun _ => ⟨_, rfl⟩⟩, fun sys' h => by cases h; exact hA'⟩
  | close c => exact hskip trivial (hA.modesCloseClient c)
  | flush s => exact hskip trivial (hA.closes (Network.closes_flushService env sys.net s))
  | queue s frame => exact hskip trivial (hA.closes (Network.closes_queue env sys.net s frame))
  | prune => exact hskip trivial hA.prune
  | move c s =>
    simp only [step, Survives]
    split
    · next hactive =>
      obtain ⟨t, ht⟩ := Option.ne_none_iff_exists'.mp hactive.2
      rw [Runs.exists_map_ok, Network.moveNetClient_ok_iff env c hA.tallied]
      refine ⟨⟨fun h _ => h, fun h => h hactive⟩, fun sys' h => ?_⟩
      obtain ⟨net', hmove, rfl⟩ := Runs.map_ok.mp h
      exact (hA.moveNetClient ht hmove).1
    · next hinactive => exact hskip (fun h => absurd h hinactive) hA
  | command c p =>
    simp only [step, Survives]
    split
    · next hactive =>
      obtain ⟨s, hs, hhandler⟩ := Option.bind_eq_some_iff.mp hactive.2
      have hreading : Network.Reading s.read_mode .handleBeastCommand c sys.net :=
        ⟨hA, s, hs, rfl, hhandler⟩
      have hcall : sys.net.handleBeastCommand env c p = Network.callHandler env c sys.net p := by
        simp only [Network.callHandler, hs, hhandler]
      obtain ⟨hiff, hkeeps⟩ := Network.callHandler_spec env hreading p
      rw [hcall, Runs.exists_map_ok, hiff]
      refine ⟨⟨fun h _ => h, fun h => h hactive.1⟩, fun sys' h => ?_⟩
      obtain ⟨net', hok, rfl⟩ := Runs.map_ok.mp h
      exact (hkeeps net' hok).accounted
    · next hinactive =>
      exact hskip (fun hactive hhandler => absurd ⟨hactive, hhandler⟩ hinactive) hA
  | read c results =>
    simp only [step, Survives]
    split
    · next hactive =>
      obtain ⟨s, hs⟩ := Option.ne_none_iff_exists'.mp hactive.1.2
      have hbind : sys.handler c = s.read_handler := by rw [handler, hs]; rfl
      obtain ⟨handler, hhandler⟩ := Option.ne_none_iff_exists'.mp (hbind ▸ hactive.2)
      obtain ⟨hiff, hkeeps⟩ := read_spec env hA hs hhandler results
      rw [Runs.exists_map_ok, hiff]
      refine ⟨⟨fun h _ _ s' hs' => ?_, fun h => h hactive.1 hactive.2 s hs⟩, fun sys' h => ?_⟩
      · obtain rfl : s = s' := Option.some.inj (hs.symm.trans hs')
        exact h
      · obtain ⟨out, hok, rfl⟩ := Runs.map_ok.mp h
        exact hkeeps out hok
    · next hinactive =>
      exact hskip (fun hactive hhandler => absurd ⟨hactive, hhandler⟩ hinactive) hA

theorem init_accounted : init.net.Accounted :=
  ⟨⟨List.nodup_nil, fun _ h => absurd rfl h, fun _ => rfl⟩, fun _ h => absurd h List.not_mem_nil,
    fun _ h => absurd h List.not_mem_nil⟩

/-- **The accounts of a run.** A run from the start is free of faults exactly if no
client is closed by the flush that is to precede its own move. Whatever it ends in,
`connections` is the number of a service's clients, and the clients without a
service are the ones without a file descriptor. -/
theorem accounting (env : Environment) (ops : List Op) :
    ((∃ sys, Runs.run (step env) init ops = .ok sys) ↔
        Runs.Along (step env) (Survives env) init ops) ∧
      ∀ sys, Runs.run (step env) init ops = .ok sys →
        (∀ s, sys.net.connections s = sys.net.clients.countP fun c => sys.net.service c = some s) ∧
        ∀ c ∈ sys.net.clients, (sys.net.client c).service = none ↔ (sys.net.client c).fd = -1 := by
  have hkeeps : ∀ (sys : System) (op : Op) (sys' : System), sys.net.Accounted →
      step env sys op = .ok sys' → sys'.net.Accounted :=
    fun sys op sys' hA => (step_spec hA op).2 sys'
  refine ⟨Runs.run_ok_iff hkeeps (fun sys op hA => (step_spec hA op).1) ops init_accounted,
    fun sys hrun => ?_⟩
  have hA := Runs.run_invariant hkeeps init_accounted hrun
  exact ⟨fun s => (hA.tallied.connections s).trans (add_zero _), hA.fd⟩

/-- A client asks for the verbatim messages, and the heartbeat that is waiting for it
cannot be written. -/
theorem move_faults :
    Runs.run (step ⟨true, 1244, fun _ _ => .fails, fun _ => []⟩) init
      [.create .beastCooked 5, .queue .beastCooked heartbeatFrame, .command 0 [0x31, 0x56]] =
      .error .nullService := by
  rfl

end System

end RbFeeder.Net
