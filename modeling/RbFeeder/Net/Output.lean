import RbFeeder.Net.Accounting

/-! What the clients of an output service receive.

All clients of a service share one buffer. What a client has received since it was
attached, followed by what is in the buffer, is the concatenation of the frames that
were completed since then (`Framed.attached`): the buffer is flushed before a client
is attached, so it starts with nothing, and `completeWrite` and `flushWrites` keep
it so. A client that goes to another service is flushed first and has received all
of its frames; a client that is closed has received whole frames, but not those
that were still in the buffer (`output_framing`). -/
namespace RbFeeder.Net
open ModeS (Byte)

namespace Network
variable {env : Environment} {net net' : Network} {c : ClientId}

/-- What a client that leaves a service has received, with `data` still in the buffer. -/
def Left (c : ClientId) (s : Service) (closed : Bool) (data : List Byte) (log : List Event) : Prop :=
  if closed then WritesFull c log →
    ∃ sent queued, completed c s log = sent ++ queued ∧ received c log = sent.flatten ∧ data = queued.flatten
  else received c log = (completed c s log).flatten

/-- The log is in order: clients leave as `Left` says, and the buffers suffice. -/
def Orderly : List Event → Prop
  | [] => True
  | .detach c s closed data :: log => Left c s closed data log ∧ Orderly log
  | .prepare _ dataUsed len :: log => dataUsed + len ≤ outBufSize ∧ Orderly log
  | .complete _ dataUsed frame :: log => dataUsed + frame.length ≤ outBufSize ∧ Orderly log
  | _ :: log => Orderly log

/-- The invariant of the shared buffers. -/
structure Framed (net : Network) : Prop where
  attached : ∀ c s, net.service c = some s → ∃ sent queued,
    completed c s net.log = sent ++ queued ∧ received c net.log = sent.flatten ∧
      net.data s = queued.flatten
  bound : ∀ s, (net.data s).length ≤ outBufSize
  silent : ∀ s, s.writer = false → net.data s = []
  orderly : Orderly net.log

/-- The invariant looks at the services, the buffers and the log. -/
theorem Framed.congr (h : Framed net) (hservice : net'.service = net.service)
    (hdata : net'.data = net.data) (hlog : net'.log = net.log) : Framed net' := by
  refine ⟨fun c s hs => ?_, hdata ▸ h.bound, hdata ▸ h.silent, hlog ▸ h.orderly⟩
  rw [hservice] at hs
  rw [hlog, hdata]
  exact h.attached c s hs

/-! ### Closing and flushing -/

theorem Framed.modesCloseClient (h : Framed net) (c : ClientId) :
    Framed (net.modesCloseClient env c) := by
  cases hs : net.service c with
  | none => rwa [modesCloseClient_of_none env hs]
  | some s =>
    obtain ⟨mode_ac, heq⟩ := modesCloseClient_of_some env hs
    rw [heq]
    refine ⟨fun c' s' hs' => ?_, h.bound, h.silent, ?_, h.orderly⟩
    · have hne : c' ≠ c := by
        intro hgiven
        obtain rfl := hgiven
        simp [service, record, setClient, closedClient] at hs'
      have hs'' : net.service c' = some s' := by
        simpa [service, record, setClient, addConnections, hne] using hs'
      exact h.attached c' s' hs''
    · exact fun _ => h.attached c s hs

variable (env) in
theorem sameBuffers_loop (net : Network) (s : Service) (l : List ClientId) :
    SameBuffers net (l.foldl (flushClient env s) net) := by
  refine List.foldlRecOn l (flushClient env s) (motive := SameBuffers net) ⟨rfl, rfl⟩ ?_
  intro n hn c _
  have hn' := flushClient_sameBuffers env n s c
  exact ⟨hn'.data.trans hn.data, hn'.flushes.trans hn.flushes⟩

variable (env) in
theorem data_flushWrites (net : Network) (s : Service) :
    (net.flushWrites env s).data = Function.update net.data s [] := by
  have hloop := (sameBuffers_loop env net s net.clients).data
  simp only [flushWrites, setData, hloop]

/-- A flush completes no frame. -/
theorem completed_flushWrites (net : Network) (s : Service) (c : ClientId) (t : Service) :
    completed c t (net.flushWrites env s).log = completed c t net.log := by
  refine List.foldlRecOn net.clients (flushClient env s)
    (motive := fun n => completed c t n.log = completed c t net.log) rfl ?_
  intro n hn c' _
  by_cases h : n.service c' = some s
  · by_cases hall : n.WritesAll env s c'
    · rw [flushClient_of_all env h hall]
      simpa [wrote, record] using hn
    · rw [flushClient_of_short env h hall]
      have hwrote : (n.wrote env s c').service c' = some s := h
      obtain ⟨mode_ac, heq⟩ := modesCloseClient_of_some env hwrote
      rw [heq]
      simpa [wrote, record, setClient, addConnections] using hn
  · rwa [flushClient_of_ne env h]

theorem completed_prepareWrite {s : Service} {len : Nat} (h : net.prepareWrite env s len = some net')
    (c : ClientId) (t : Service) : completed c t net'.log = completed c t net.log := by
  unfold prepareWrite at h
  split at h
  · cases h
  split at h
  · cases h
  obtain rfl := Option.some.inj h
  dsimp only [record]
  rw [completed_prepare]
  split
  · exact net.completed_flushWrites s c t
  · rfl

theorem completed_completeWrite (net : Network) (s : Service) (frame : List Byte) (c : ClientId) :
    completed c s (net.completeWrite env s frame).log = completed c s net.log ++ [frame] := by
  dsimp only [completeWrite]
  split
  · rw [completed_flushWrites]
    simp [record, setData]
  · simp [record, setData]

/-- A client that a flush closes had an incomplete write. -/
theorem orderly_flushWrites (h : Orderly net.log) (s : Service) :
    Orderly (net.flushWrites env s).log := by
  refine List.foldlRecOn net.clients (flushClient env s) (motive := fun n => Orderly n.log) h ?_
  intro n hn c _
  by_cases hs : n.service c = some s
  · by_cases hall : n.WritesAll env s c
    · rwa [flushClient_of_all env hs hall]
    · rw [flushClient_of_short env hs hall]
      have hwrote : (n.wrote env s c).service c = some s := hs
      obtain ⟨mode_ac, heq⟩ := modesCloseClient_of_some env hwrote
      rw [heq]
      exact ⟨fun hfull => absurd (hfull.1 rfl) hall, hn⟩
  · rwa [flushClient_of_ne env hs]

variable (env) in
theorem Framed.flushWrites {off : Service → Int} (h : Framed net) (ht : Tallied off net) (s : Service) :
    Framed (net.flushWrites env s) := by
  have hdata := data_flushWrites env net s
  refine ⟨fun c t hc => ?_, fun t => ?_, fun t hwriter => ?_, orderly_flushWrites h.orderly s⟩
  · have hsame := (closes_flushWrites env net s).client_eq (c := c) (by rw [hc]; simp)
    have hold : net.service c = some t := by rw [← hc, service, service, hsame]
    obtain ⟨sent, queued, hcompleted, hreceived, hqueued⟩ := h.attached c t hold
    have hview : received c (net.flushWrites env s).log = (flushed env net s c (net.view c)).2 :=
      congrArg Prod.snd (view_flushWrites env ht s c)
    have hv : (net.view c).1.service = some t := hold
    rw [completed_flushWrites, hview, hdata, flushed, hv]
    by_cases hst : t = s
    · subst hst
      have hall : net.WritesAll env t c := by
        by_contra hshort
        rw [service_flushWrites env ht hold, if_neg hshort] at hc
        cases hc
      have hwhole : (net.data t).take
          ((env.write net.flushes c).nwritten (net.data t).length).toNat = net.data t := by
        rw [WritesAll] at hall
        rw [hall, Int.toNat_natCast, List.take_length]
      refine ⟨sent ++ queued, [], by rw [hcompleted, List.append_nil], ?_, by simp⟩
      rw [if_pos rfl, hwhole, hqueued, List.flatten_append]
      exact congrArg (· ++ _) hreceived
    · refine ⟨sent, queued, hcompleted, ?_, ?_⟩
      · rw [if_neg fun heq => hst (Option.some.inj heq)]
        exact hreceived
      · rw [Function.update_of_ne hst]
        exact hqueued
  · by_cases hst : t = s
    · simp [hdata, hst]
    · rw [hdata, Function.update_of_ne hst]
      exact h.bound t
  · by_cases hst : t = s
    · simp [hdata, hst]
    · rw [hdata, Function.update_of_ne hst]
      exact h.silent t hwriter

variable (env) in
theorem Framed.flushService {off : Service → Int} (h : Framed net) (ht : Tallied off net)
    (s : Service) : Framed (net.flushService env s) ∧ (net.flushService env s).data s = [] := by
  unfold Network.flushService
  split
  · refine ⟨h.flushWrites env ht s, ?_⟩
    rw [data_flushWrites, Function.update_self]
  · next hwriter => exact ⟨h, h.silent s (by simpa using hwriter)⟩

/-! ### Writing -/

/-- What `prepareWrite` gives out is free. -/
theorem Framed.prepareWrite {off : Service → Int} (h : Framed net) (ht : Tallied off net)
    {s : Service} {len : Nat} (hprepare : net.prepareWrite env s len = some net') :
    Framed net' ∧ (net'.data s).length + len ≤ outBufSize := by
  unfold Network.prepareWrite at hprepare
  split at hprepare
  · cases hprepare
  · split at hprepare
    · cases hprepare
    · next hlen =>
      cases hprepare
      split
      · have hflush := h.flushWrites env ht s
        have hempty : (net.flushWrites env s).data s = [] := by
          rw [data_flushWrites, Function.update_self]
        have hfree : ((net.flushWrites env s).data s).length + len ≤ outBufSize := by
          rw [hempty, List.length_nil]
          omega
        exact ⟨⟨hflush.attached, hflush.bound, hflush.silent, hfree, hflush.orderly⟩, hfree⟩
      · have hfree : (net.data s).length + len ≤ outBufSize := by omega
        exact ⟨⟨h.attached, h.bound, h.silent, hfree, h.orderly⟩, hfree⟩

theorem Framed.completeWrite {off : Service → Int} (h : Framed net) (ht : Tallied off net)
    {s : Service} (hwriter : s.writer = true) {frame : List Byte}
    (hfree : (net.data s).length + frame.length ≤ outBufSize) :
    Framed (net.completeWrite env s frame) := by
  have hqueued : Framed
      ((net.setData s (net.data s ++ frame)).record (.complete s (net.data s).length frame)) := by
    refine ⟨fun c t hc => ?_, fun t => ?_, fun t ht => ?_, hfree, h.orderly⟩
    · obtain ⟨sent, queued, hcompleted, hreceived, hdata⟩ := h.attached c t hc
      by_cases hst : t = s
      · subst hst
        refine ⟨sent, queued ++ [frame], ?_, hreceived, ?_⟩
        · simp [record, setData, hcompleted]
        · simp [record, setData, hdata]
      · refine ⟨sent, queued, ?_, hreceived, ?_⟩
        · simpa [record, setData, Ne.symm hst] using hcompleted
        · simpa [record, setData, hst] using hdata
    · by_cases hst : t = s
      · simpa [record, setData, hst] using hfree
      · simpa [record, setData, hst] using h.bound t
    · have hst : t ≠ s := by
        intro hgiven
        obtain rfl := hgiven
        rw [hwriter] at ht
        cases ht
      simpa [record, setData, hst] using h.silent t ht
  unfold Network.completeWrite
  dsimp only
  split
  · exact hqueued.flushWrites env (ht.congr rfl rfl rfl) s
  · exact hqueued

theorem Framed.queue {off : Service → Int} (h : Framed net) (ht : Tallied off net) (s : Service)
    (frame : Frame) : Framed (net.queue env s frame) := by
  unfold Network.queue
  split
  · exact h
  · next net' hprepare =>
    obtain ⟨hframed, hfree⟩ := h.prepareWrite ht hprepare
    obtain ⟨hcloses, hwriter⟩ := closes_prepareWrite env hprepare
    split
    · exact hframed
    · next bytes hbytes =>
      have hfits := frame.fits bytes (by rw [hbytes]; rfl)
      exact hframed.completeWrite (hcloses.tallied off ht) hwriter (by omega)

theorem Framed.decode {off : Service → Int} (h : Framed net) (ht : Tallied off net) :
    Framed (net.decode env) := by
  have hcount : Framed { net with decoded := net.decoded + 1 } ∧
      Tallied off { net with decoded := net.decoded + 1 } :=
    ⟨h.congr rfl rfl rfl, ht.congr rfl rfl rfl⟩
  refine (List.foldlRecOn (env.output net.decoded) _
    (motive := fun n => Framed n ∧ Tallied off n) hcount ?_).1
  intro n hn out _
  exact ⟨hn.1.queue hn.2 out.1 out.2, (closes_queue env n out.1 out.2).tallied off hn.2⟩

/-! ### Moving -/

theorem Framed.sameServices (h : Framed net) (hsame : SameServices net net') : Framed net' :=
  h.congr hsame.service hsame.data hsame.log

/-- A client that goes to another service has received everything. -/
theorem Framed.leaveService {off : Service → Int} (h : Framed net) (ht : Tallied off net)
    (hleave : net.leaveService env c = .ok net') : Framed net' ∧ ∃ off', Tallied off' net' := by
  cases hs : net.service c with
  | none =>
    rw [leaveService_of_none hs] at hleave
    cases hleave
    exact ⟨h, off, ht⟩
  | some s =>
    rw [leaveService_of_some ht hs] at hleave
    split at hleave
    · next hall =>
      cases hleave
      obtain ⟨hflush, hempty⟩ := h.flushService env ht s
      have hstays : (net.flushService env s).service c = some s := by
        rw [service_flushService env ht hs, if_pos hall]
      obtain ⟨sent, queued, hcompleted, hreceived, hqueued⟩ := hflush.attached c s hstays
      have hleft : Left c s false ((net.flushService env s).data s) (net.flushService env s).log := by
        change received c _ = (completed c s _).flatten
        rw [hcompleted, hreceived, List.flatten_append, ← hqueued, hempty, List.append_nil]
      have htallied := ((closes_flushService env net s).tallied off ht).addConnections s (-1)
      exact ⟨⟨hflush.attached, hflush.bound, hflush.silent, hleft, hflush.orderly⟩, _,
        htallied.congr rfl rfl rfl⟩
    · cases hleave

/-- A client that is attached starts with an empty buffer. -/
theorem Framed.enterService {off : Service → Int} (h : Framed net) (ht : Tallied off net)
    (t : Service) : Framed (net.enterService env c (some t)) := by
  obtain ⟨hflush, hempty⟩ := h.flushService env ht t
  refine ⟨fun c' s hs => ?_, hflush.bound, hflush.silent, hflush.orderly⟩
  by_cases hc : c' = c
  · subst hc
    have hst : t = s := by
      simpa [Network.enterService, service, record, setClient] using hs
    subst hst
    refine ⟨[], [], ?_, ?_, ?_⟩
    · simp [Network.enterService, record, setClient]
    · simp [Network.enterService, record, setClient]
    · exact hempty
  · have hold : (net.flushService env t).service c' = some s := by
      simpa [Network.enterService, service, record, setClient, addConnections, hc] using hs
    obtain ⟨sent, queued, hcompleted, hreceived, hqueued⟩ := hflush.attached c' s hold
    refine ⟨sent, queued, ?_, ?_, hqueued⟩
    · simpa [Network.enterService, record, setClient, addConnections, Ne.symm hc] using hcompleted
    · simpa [Network.enterService, record, setClient, addConnections, Ne.symm hc] using hreceived

theorem Framed.moveNetClient {off : Service → Int} (h : Framed net) (ht : Tallied off net)
    {t : Service} (hmove : net.moveNetClient env c (some t) = .ok net') : Framed net' := by
  unfold Network.moveNetClient at hmove
  split at hmove
  · cases hmove
    exact h
  · obtain ⟨net₁, hleave, rfl⟩ := Runs.map_ok.mp hmove
    obtain ⟨hleft, off', ht'⟩ := h.leaveService ht hleave
    exact hleft.enterService ht' t

theorem Framed.createGenericClient (h : Framed net) (hA : Accounted net) {s : Service} {fd : Nat}
    (hcreate : net.createGenericClient env s fd = .ok net') : Framed net' := by
  obtain ⟨htallied, -, -, -, hidle⟩ := createGenericClient_start hA fd
  refine Framed.moveNetClient ?_ htallied hcreate
  refine ⟨fun c t hc => ?_, h.bound, h.silent, h.orderly⟩
  have hne : c ≠ net.malloc := by
    intro hgiven
    obtain rfl := hgiven
    rw [hidle] at hc
    cases hc
  rw [service_setClient_of_ne _ _ hne] at hc
  exact h.attached c t hc

/-! ### Reading -/

theorem Framed.callHandler {mode : ReadMode} {handler : ReadHandler} (h : Framed net)
    (hreading : Reading mode handler c net) {p : List Byte}
    (hok : Network.callHandler env c net p = .ok net') : Framed net' := by
  obtain ⟨s, hs, -, hhandler⟩ := hreading.active
  have ht := hreading.accounted.tallied
  simp only [Network.callHandler, hs, hhandler] at hok
  have hcommand : net.handleBeastCommand env c p = .ok net' → Framed net' := by
    intro hok
    rcases handleBeastCommand_cases env net c p with ⟨t, -, -, -, heq⟩ | ⟨-, net'', heq, hsame⟩
    · rw [heq] at hok
      exact h.moveNetClient ht hok
    · rw [heq] at hok
      cases hok
      exact h.sameServices hsame
  cases handler with
  | handleBeastCommand => exact hcommand hok
  | decodeHexMessage | decodeBinMessage | handleFaupCommand =>
    cases hok
    exact h.decode ht

theorem Framed.modesReadFromClient {mode : ReadMode} {handler : ReadHandler} (h : Framed net)
    (hreading : Reading mode handler c net) {results : List ReadResult} {buf : List Byte}
    {out : Network × List Byte} (hok : net.modesReadFromClient env c buf results = .ok out) :
    Framed out.1 := by
  rw [modesReadFromClient_eq results hreading] at hok
  obtain ⟨net₁, hrun, rfl⟩ := Runs.map_ok.mp hok
  have hstep : ∀ (n : Network) (p : List Byte) (n' : Network),
      Reading mode handler c n ∧ Framed n → handleMessage env mode c n p = .ok n' →
        Reading mode handler c n' ∧ Framed n' := by
    intro n p n' hn hmessage
    refine ⟨handleMessage_reading env c mode handler n p n' hn.1 hmessage, ?_⟩
    rw [handleMessage_eq hn.1] at hmessage
    exact hn.2.callHandler hn.1 hmessage
  have hframed := (Runs.run_invariant hstep ⟨hreading, h⟩ hrun).2
  dsimp only
  split
  · exact hframed.modesCloseClient c
  · exact hframed

/-- **What the clients of a service receive**, and that the buffers suffice. -/
structure Delivery (net : Network) : Prop where
  /-- A client has received the frames since it was attached, up to those in the buffer. -/
  attached : ∀ c s, net.service c = some s → ∃ sent queued,
    completed c s net.log = sent ++ queued ∧ received c net.log = sent.flatten ∧
      net.data s = queued.flatten
  /-- A client that went to another service had received all of them. -/
  moved : ∀ later earlier c s data, net.log = later ++ .detach c s false data :: earlier →
    received c earlier = (completed c s earlier).flatten
  /-- A client that was closed, though its writes were complete, had received the frames up to
  those that were in the buffer then. -/
  closed : ∀ later earlier c s data, net.log = later ++ .detach c s true data :: earlier →
    WritesFull c earlier →
      ∃ sent queued, completed c s earlier = sent ++ queued ∧ received c earlier = sent.flatten ∧
        data = queued.flatten
  dataUsed_le : ∀ s, (net.data s).length ≤ outBufSize
  prepared_le : ∀ later earlier s dataUsed len,
    net.log = later ++ .prepare s dataUsed len :: earlier → dataUsed + len ≤ outBufSize
  completed_le : ∀ later earlier s dataUsed frame,
    net.log = later ++ .complete s dataUsed frame :: earlier → dataUsed + frame.length ≤ outBufSize

theorem Orderly.of_append {later earlier : List Event} (h : Orderly (later ++ earlier)) :
    Orderly earlier := by
  induction later with
  | nil => exact h
  | cons event later ih =>
    cases event with
    | attach | write => exact ih h
    | detach | prepare | complete => exact ih h.2

theorem Framed.delivery (h : Framed net) : Delivery net where
  attached := h.attached
  moved later earlier c s data hlog := by
    have hevent : Orderly (.detach c s false data :: earlier) := .of_append (hlog ▸ h.orderly)
    exact hevent.1
  closed later earlier c s data hlog := by
    have hevent : Orderly (.detach c s true data :: earlier) := .of_append (hlog ▸ h.orderly)
    exact hevent.1
  dataUsed_le := h.bound
  prepared_le later earlier s dataUsed len hlog := by
    have hevent : Orderly (.prepare s dataUsed len :: earlier) := .of_append (hlog ▸ h.orderly)
    exact hevent.1
  completed_le later earlier s dataUsed frame hlog := by
    have hevent : Orderly (.complete s dataUsed frame :: earlier) := .of_append (hlog ▸ h.orderly)
    exact hevent.1

end Network

/-! ### Runs -/

namespace System
open Network
variable {env : Environment} {sys sys' : System}

theorem step_framed (hA : sys.net.Accounted) (h : sys.net.Framed) {op : Op}
    (hstep : step env sys op = .ok sys') : sys'.net.Framed := by
  cases op with
  | create s fd =>
    obtain ⟨net', hcreate, rfl⟩ := Runs.map_ok.mp hstep
    exact h.createGenericClient hA hcreate
  | close c =>
    cases hstep
    exact h.modesCloseClient c
  | flush s =>
    cases hstep
    exact (h.flushService env hA.tallied s).1
  | queue s frame =>
    cases hstep
    exact h.queue hA.tallied s frame
  | prune =>
    cases hstep
    exact h.congr rfl rfl rfl
  | move c s =>
    simp only [step] at hstep
    split at hstep
    · obtain ⟨net', hmove, rfl⟩ := Runs.map_ok.mp hstep
      exact h.moveNetClient hA.tallied hmove
    · cases hstep
      exact h
  | command c p =>
    simp only [step] at hstep
    split at hstep
    · next hactive =>
      obtain ⟨s, hs, hhandler⟩ := Option.bind_eq_some_iff.mp hactive.2
      obtain ⟨net', hcommand, rfl⟩ := Runs.map_ok.mp hstep
      have hreading : Reading s.read_mode .handleBeastCommand c sys.net := ⟨hA, s, hs, rfl, hhandler⟩
      have hcall : Network.callHandler env c sys.net p = .ok net' := by
        simpa only [Network.callHandler, hs, hhandler] using hcommand
      exact h.callHandler hreading hcall
    · cases hstep
      exact h
  | read c results =>
    simp only [step] at hstep
    split at hstep
    · next hactive =>
      obtain ⟨s, hs⟩ := Option.ne_none_iff_exists'.mp hactive.1.2
      have hbind : sys.handler c = s.read_handler := by rw [handler, hs]; rfl
      obtain ⟨handler, hhandler⟩ := Option.ne_none_iff_exists'.mp (hbind ▸ hactive.2)
      obtain ⟨out, hread, rfl⟩ := Runs.map_ok.mp hstep
      have hreading : Reading s.read_mode handler c sys.net := ⟨hA, s, hs, rfl, hhandler⟩
      exact h.modesReadFromClient hreading hread
    · cases hstep
      exact h

theorem init_framed : init.net.Framed :=
  ⟨fun _ _ h => (by cases h), fun _ => Nat.zero_le _, fun _ _ => rfl, trivial⟩

/-- **The output services deliver whole frames.** In every state that a run reaches,
every client of a service has received exactly the frames that were completed since
it was attached, up to those that are still in the buffer; it received all of them if
it left for another service; and nothing was written past the end of a buffer. -/
theorem output_framing (env : Environment) (ops : List Op) (sys : System)
    (hrun : Runs.run (step env) init ops = .ok sys) : sys.net.Delivery := by
  have hstep : ∀ (sys : System) (op : Op) (sys' : System),
      sys.net.Accounted ∧ sys.net.Framed → step env sys op = .ok sys' →
        sys'.net.Accounted ∧ sys'.net.Framed :=
    fun sys op sys' h hok => ⟨(step_spec h.1 op).2 sys' hok, step_framed h.1 h.2 hok⟩
  exact (Runs.run_invariant hstep ⟨init_accounted, init_framed⟩ hrun).2.delivery

/-- Sockets that take everything. -/
def roomyEnvironment : Environment := ⟨true, 1244, fun _ _ => .takes 1500, fun _ => []⟩

/-- Two clients get a heartbeat, and one of them leaves for the other service. -/
theorem output_framing_switch :
    ∃ sys, Runs.run (step roomyEnvironment) init
        [.create .beastCooked 5, .create .beastCooked 6, .queue .beastCooked heartbeatFrame,
          .command 0 [0x31, 0x56]] = .ok sys ∧ sys.net.Delivery := by
  have hruns : ∃ sys, Runs.run (step roomyEnvironment) init
      [.create .beastCooked 5, .create .beastCooked 6, .queue .beastCooked heartbeatFrame,
        .command 0 [0x31, 0x56]] = .ok sys := ⟨_, rfl⟩
  obtain ⟨sys, hrun⟩ := hruns
  exact ⟨sys, hrun, output_framing roomyEnvironment _ sys hrun⟩

/-- A client that closes the connection does not get what is still in the buffer,
though every write to it was complete. -/
theorem closed_client_misses_frame :
    ∃ sys earlier, Runs.run (step roomyEnvironment) init
        [.create .beastCooked 5, .queue .beastCooked heartbeatFrame, .read 0 [.eof]] = .ok sys ∧
      sys.net.log = .detach 0 .beastCooked true [0x1a, 0x31, 0, 0, 0, 0, 0, 0, 0, 0, 0] :: earlier ∧ WritesFull 0 earlier ∧
      completed 0 .beastCooked earlier = [[0x1a, 0x31, 0, 0, 0, 0, 0, 0, 0, 0, 0]] ∧
      received 0 earlier = [] :=
  ⟨_, _, rfl, rfl, .inl rfl, rfl, rfl⟩

end System

end RbFeeder.Net
