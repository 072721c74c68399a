/-
MMOServers.Network.FramingTheorems — packets go through the link as they are.

A packet on the wire is its header and its payload (`framed`), and for a payload
of up to 4092 bytes this is what every `Send` writes. It is a prefix-free
code, so a stream can be cut into packets in one way.

The invariant of a reader is that the stream is what it has handed on, then the
header it has just read, then what is still to come (`Tracks`). This holds for
any bytes. A header of a size out of range ends the loop, and nothing behind it
is handed on.
-/
import MMOServers.Network.Framing
import MMOServers.Lib.PrefixCode
import MMOServers.Lib.Run

namespace MMOServers.Common.PacketHeader

open LittleEndian

theorem ofBytes_bytes (h : PacketHeader) (rest : List UInt8) : ofBytes (h.bytes ++ rest) = h := by
  have hsize : readU16 (writeU16 h.size ++ (writeU16 h.id ++ rest)) = h.size :=
    readU16_writeU16 _ _
  have hid : readU16 (writeU16 h.id ++ rest) = h.id := readU16_writeU16 _ _
  cases h
  exact congrArg₂ PacketHeader.mk hsize hid

theorem bytes_ofBytes {bytes : List UInt8} (hlen : bytes.length = byteSize) :
    (ofBytes bytes).bytes = bytes := by
  match bytes, hlen with
  | [a, b, c, d], _ =>
      show writeU16 (readU16 [a, b, c, d]) ++ writeU16 (readU16 [c, d]) = _
      rw [writeU16_readU16, writeU16_readU16]
      rfl

theorem bytes_inj {h h' : PacketHeader} {u v : List UInt8} (heq : h.bytes ++ u = h'.bytes ++ v) :
    h = h' ∧ u = v := by
  obtain ⟨hbytes, hrest⟩ := List.append_inj heq rfl
  refine ⟨?_, hrest⟩
  rw [← ofBytes_bytes h [], hbytes, ofBytes_bytes]

/-- The loop goes on with a header of this size. -/
def InRange (h : PacketHeader) : Prop := byteSize ≤ h.size.toNat ∧ h.size.toNat ≤ maxPacketSize

end MMOServers.Common.PacketHeader

namespace MMOServers.Network

open MMOServers.Common Transition

/-! ## Packets on the wire -/

/-- A packet with a header of its size in front. -/
def framed (packet : UInt16 × List UInt8) : List UInt8 :=
  PacketHeader.bytes ⟨UInt16.ofNat (PacketHeader.byteSize + packet.2.length), packet.1⟩ ++ packet.2

/-- The payload is of up to `MAX_PACKET_SIZE` - 4 bytes. -/
def Fits (packet : UInt16 × List UInt8) : Prop :=
  packet.2.length ≤ maxPacketSize - PacketHeader.byteSize

theorem Fits.size {packet : UInt16 × List UInt8} (h : Fits packet) :
    (UInt16.ofNat (PacketHeader.byteSize + packet.2.length)).toNat
      = PacketHeader.byteSize + packet.2.length := by
  unfold Fits maxPacketSize PacketHeader.byteSize at h
  rw [UInt16.toNat_ofNat']
  unfold PacketHeader.byteSize
  omega

theorem framed_prefixFree : PrefixFree framed Fits := by
  rintro ⟨id, payload⟩ ⟨id', payload'⟩ u v hfits hfits' heq
  simp only [framed, List.append_assoc] at heq
  obtain ⟨hheader, hrest⟩ := PacketHeader.bytes_inj heq
  obtain ⟨hsize, rfl⟩ := PacketHeader.mk.inj hheader
  have hlen : payload.length = payload'.length := by
    have hnat := congrArg UInt16.toNat hsize
    rw [hfits.size, hfits'.size] at hnat
    exact Nat.add_left_cancel hnat
  obtain ⟨rfl, rfl⟩ := List.append_inj hrest hlen
  exact ⟨rfl, rfl⟩

theorem framed_ne_nil (packet : UInt16 × List UInt8) : framed packet ≠ [] := by
  simp [framed, PacketHeader.bytes]

/-- The header in front of a payload of its size. -/
theorem framed_of_header {h : PacketHeader} (hin : h.InRange) {payload : List UInt8}
    (hlen : payload.length = (PacketHeader.payloadSize h.size).toNat) :
    framed (h.id, payload) = h.bytes ++ payload ∧ Fits (h.id, payload) := by
  rw [PacketHeader.payloadSize_toNat hin.1] at hlen
  have hsum : PacketHeader.byteSize + payload.length = h.size.toNat := by
    have := hin.1
    omega
  refine ⟨?_, ?_⟩
  · simp only [framed, hsum, UInt16.ofNat_toNat]
  · have hle : h.size.toNat ≤ 4096 := hin.2
    have hlen' : payload.length = h.size.toNat - 4 := hlen
    show payload.length ≤ 4092
    omega

/-- No packet begins with a header out of range. -/
theorem endsHere_of_not_inRange {h : PacketHeader} (hout : ¬ h.InRange) (rest : List UInt8) :
    EndsHere framed Fits (h.bytes ++ rest) := by
  rintro ⟨id, payload⟩ u hfits heq
  rw [framed, List.append_assoc] at heq
  obtain ⟨rfl, -⟩ := PacketHeader.bytes_inj heq
  refine hout ⟨?_, ?_⟩
  · rw [hfits.size]
    exact Nat.le_add_right _ _
  · rw [hfits.size]
    unfold Fits maxPacketSize PacketHeader.byteSize at *
    omega

/-- The world connection of the login server sends any payload of up to 65531 bytes
    as it is. -/
theorem worldConnection_frame (packet : UInt16 × List UInt8)
    (hlen : packet.2.length < 65536 - PacketHeader.byteSize) :
    worldConnection.frame packet.1 packet.2 = some (framed packet) := by
  have hsize : (UInt16.ofNat (PacketHeader.byteSize + packet.2.length)).toNat
      = PacketHeader.byteSize + packet.2.length := by
    rw [UInt16.toNat_ofNat']
    unfold PacketHeader.byteSize at *
    omega
  have htake : (framed packet).take (PacketHeader.byteSize + packet.2.length) = framed packet := by
    refine List.take_of_length_le (Nat.le_of_eq ?_)
    simp only [framed, PacketHeader.bytes, PacketHeader.byteSize, List.length_append,
      List.length_cons, List.length_nil]
  simp only [worldConnection, hsize]
  exact congrArg some htake

/-- Every end is sent a packet that fits as it is. -/
theorem peerFrame_eq (link : LinkEnd) {packet : UInt16 × List UInt8} (h : Fits packet) :
    link.peerFrame packet.1 packet.2 = some (framed packet) := by
  obtain ⟨id, payload⟩ := packet
  have hle : payload.length ≤ 4092 := h
  have hlen : (UInt16.ofNat payload.length).toNat = payload.length := by
    rw [UInt16.toNat_ofNat']
    omega
  have hsize := h.size
  have hsmall : ¬ maxPacketSize < PacketHeader.byteSize + payload.length := by
    show ¬ 4096 < 4 + payload.length
    omega
  cases link with
  | gatewaySession =>
      simp only [LinkEnd.peerFrame, gameConnection, hlen, hsize, gt_iff_lt, if_neg hsmall, if_true,
        framed]
  | gameConnection =>
      have htake : (framed (id, payload)).take (PacketHeader.byteSize + payload.length)
          = framed (id, payload) := by
        refine List.take_of_length_le (Nat.le_of_eq ?_)
        simp only [framed, PacketHeader.bytes, PacketHeader.byteSize, List.length_append,
          List.length_cons, List.length_nil]
      simp only [LinkEnd.peerFrame, gatewaySessionFrame, pooledFrame, hlen, hsize, gt_iff_lt,
        if_neg hsmall, if_true]
      exact congrArg some htake
  | serverSession =>
      have hlong : payload.length < 65536 - PacketHeader.byteSize := by
        unfold PacketHeader.byteSize
        omega
      exact worldConnection_frame (id, payload) hlong

/-! ## The reader -/

namespace FrameReader

/-- What was handed on, to the strand or to the dispatcher. -/
def handed (s : FrameReader) : List (UInt16 × List UInt8) := s.dispatched ++ s.gameStrand

/-- The header that was read and not yet handed on. -/
def begun (s : FrameReader) : List UInt8 :=
  match s.reading with
  | some .header => []
  | _ => s.header.bytes

/-- The stream is what was handed on, packet after packet, then what is being read,
    then what is to come. -/
structure Tracks (link : LinkEnd) (stream : List UInt8) (s : FrameReader) : Prop where
  layout : stream = s.handed.flatMap framed ++ (s.begun ++ s.stream)
  fits : ∀ packet ∈ s.handed, Fits packet
  payload : ∀ size, s.reading = some (.payload size) → s.header.InRange ∧
    size = PacketHeader.payloadSize s.header.size ∧ 0 < size.toNat ∧
    size.toNat ≤ s.buffer.length
  stopped : s.reading = none → ¬ s.header.InRange
  buffer : link ≠ .gameConnection → s.buffer.length = maxPacketSize
  strand : link ≠ .gatewaySession → s.gameStrand = []

theorem start_tracks (link : LinkEnd) (stream : List UInt8) : (start link stream).Tracks link stream
    where
  layout := rfl
  fits := by simp [start, handed]
  payload := by simp [start]
  stopped := by simp [start]
  buffer hlink := by
    cases link with
    | gatewaySession | serverSession => exact List.length_replicate
    | gameConnection => exact absurd rfl hlink
  strand _ := rfl

/-- A packet is handed on behind the others, and only `gameStrand` and `dispatched`
    know of it. -/
theorem handOn_handed {link : LinkEnd} {s : FrameReader}
    (hstrand : link ≠ .gatewaySession → s.gameStrand = []) (packet : UInt16 × List UInt8) :
    (s.handOn link packet).handed = s.handed ++ [packet] ∧
      (link ≠ .gatewaySession → (s.handOn link packet).gameStrand = []) ∧
      (s.handOn link packet).stream = s.stream ∧ (s.handOn link packet).buffer = s.buffer := by
  cases link with
  | gatewaySession =>
      exact ⟨(List.append_assoc _ _ _).symm, fun hlink => absurd rfl hlink, rfl, rfl⟩
  | gameConnection | serverSession =>
      have hempty := hstrand nofun
      refine ⟨?_, fun _ => hempty, rfl, rfl⟩
      simp only [handOn, handed, hempty, List.append_nil]

/-- With the header read, the packet is the next one of the stream. -/
theorem handOn_tracks {link : LinkEnd} {stream : List UInt8} {s : FrameReader}
    {packets : List (UInt16 × List UInt8)} {payload : List UInt8}
    (hhanded : s.handed = packets) (hfits : ∀ packet ∈ packets, Fits packet)
    (hin : s.header.InRange)
    (hlen : payload.length = (PacketHeader.payloadSize s.header.size).toNat)
    (hlayout : stream = packets.flatMap framed ++ (s.header.bytes ++ (payload ++ s.stream)))
    (hbuffer : link ≠ .gameConnection → s.buffer.length = maxPacketSize)
    (hstrand : link ≠ .gatewaySession → s.gameStrand = []) :
    Tracks link stream { s.handOn link (s.header.id, payload) with reading := some .header } := by
  obtain ⟨hhanded', hstrand', hstream, hbuffer'⟩ := handOn_handed hstrand (s.header.id, payload)
  obtain ⟨hframed, hpacket⟩ := framed_of_header hin hlen
  refine ⟨?_, ?_, nofun, nofun, ?_, hstrand'⟩
  · show stream = (s.handOn link (s.header.id, payload)).handed.flatMap framed ++ ([] ++
      (s.handOn link (s.header.id, payload)).stream)
    rw [hhanded', hstream, hhanded, List.flatMap_append, List.flatMap_singleton, hframed, hlayout]
    simp only [List.nil_append, List.append_assoc]
  · show ∀ packet ∈ (s.handOn link (s.header.id, payload)).handed, _
    rw [hhanded', hhanded]
    exact List.forall_mem_append.mpr ⟨hfits, List.forall_mem_singleton.mpr hpacket⟩
  · show link ≠ .gameConnection → (s.handOn link (s.header.id, payload)).buffer.length = _
    rw [hbuffer']
    exact hbuffer

theorem headerRead_tracks {link : LinkEnd} {stream : List UInt8} {s : FrameReader}
    (h : s.Tracks link stream) (hreading : s.reading = some .header)
    (hlen : PacketHeader.byteSize ≤ s.stream.length) :
    Tracks link stream ({ s with stream := s.stream.drop PacketHeader.byteSize }.headerRead link
      (PacketHeader.ofBytes (s.stream.take PacketHeader.byteSize))) := by
  have hbytes : (PacketHeader.ofBytes (s.stream.take PacketHeader.byteSize)).bytes
      = s.stream.take PacketHeader.byteSize :=
    PacketHeader.bytes_ofBytes (List.length_take_of_le hlen)
  generalize PacketHeader.ofBytes (s.stream.take PacketHeader.byteSize) = header at hbytes
  have hlayout : stream = s.handed.flatMap framed ++
      (header.bytes ++ s.stream.drop PacketHeader.byteSize) := by
    have hbegun : s.begun = [] := by simp only [begun, hreading]
    rw [hbytes, List.take_append_drop, h.layout, hbegun, List.nil_append]
  unfold headerRead
  dsimp only
  split
  · rename_i hout
    -- the loop ends
    have hout' : ¬ header.InRange := fun hin =>
      hout.elim (fun hlow => Nat.not_lt.mpr hin.1 hlow) fun hhigh => Nat.not_lt.mpr hin.2 hhigh
    exact ⟨hlayout, h.fits, nofun, fun _ => hout', h.buffer, h.strand⟩
  · rename_i hrange
    rw [not_or, Nat.not_lt, Nat.not_lt] at hrange
    have hin : header.InRange := hrange
    split
    · rename_i hempty
      have hzero : ([] : List UInt8).length = (PacketHeader.payloadSize header.size).toNat := by
        rw [hempty]
        rfl
      exact handOn_tracks rfl h.fits hin hzero hlayout h.buffer h.strand
    · rename_i hsome
      have hpos := PacketHeader.payloadSize_pos hsome
      cases link with
      | gatewaySession | serverSession =>
          have hvalid := validatePayloadSize_of_fits hin.1 hin.2 hsome
          have hsize := PacketHeader.payloadSize_toNat hin.1
          have hroom := h.buffer nofun
          simp only [payloadBuffer, hvalid, if_true]
          refine ⟨hlayout, h.fits, ?_, nofun, h.buffer, h.strand⟩
          intro size hread
          obtain rfl := FrameRead.payload.inj (Option.some.inj hread)
          refine ⟨hin, rfl, hpos, ?_⟩
          rw [hroom, hsize]
          exact Nat.sub_le_of_le_add (Nat.le_add_right_of_le hin.2)
      | gameConnection =>
          simp only [payloadBuffer]
          refine ⟨hlayout, h.fits, ?_, nofun, fun hlink => absurd rfl hlink, h.strand⟩
          intro size hread
          obtain rfl := FrameRead.payload.inj (Option.some.inj hread)
          refine ⟨hin, rfl, hpos, ?_⟩
          simp only [List.length_append, List.length_take, List.length_replicate]
          omega

theorem payloadRead_tracks {link : LinkEnd} {stream : List UInt8} {s : FrameReader}
    (h : s.Tracks link stream) {size : UInt16} (hreading : s.reading = some (.payload size))
    (hlen : size.toNat ≤ s.stream.length) :
    Tracks link stream (({ s with stream := s.stream.drop size.toNat }.fill
      (s.stream.take size.toNat)).payloadRead link size) := by
  obtain ⟨hin, hsize, -, hroom⟩ := h.payload size hreading
  have htake : (s.stream.take size.toNat).length = size.toNat := List.length_take_of_le hlen
  -- what is handed on is what was read, whatever the buffer held before
  have hread : (s.stream.take size.toNat ++ s.buffer.drop (s.stream.take size.toNat).length).take
      size.toNat = s.stream.take size.toNat := List.take_left' htake
  have hlayout : stream = s.handed.flatMap framed ++
      (s.header.bytes ++ (s.stream.take size.toNat ++ s.stream.drop size.toNat)) := by
    have hbegun : s.begun = s.header.bytes := by simp only [begun, hreading]
    rw [List.take_append_drop, h.layout, hbegun]
  unfold payloadRead fill
  dsimp only
  rw [hread]
  refine handOn_tracks rfl h.fits hin (htake.trans (congrArg UInt16.toNat hsize)) hlayout ?_
    h.strand
  intro hlink
  simp only [List.length_append, List.length_drop, htake]
  have := h.buffer hlink
  omega

theorem step_tracks {link : LinkEnd} {stream : List UInt8} {s s' : FrameReader} {label : Label}
    (h : s.Tracks link stream) (hstep : step link s label = some s') : s'.Tracks link stream := by
  cases label with
  | read =>
      simp only [step] at hstep
      split at hstep
      · cases hstep
      · rename_i hreading
        split at hstep
        · cases hstep
        · rename_i hlen
          exact Option.some.inj hstep ▸ headerRead_tracks h hreading (Nat.not_lt.mp hlen)
      · rename_i size hreading
        split at hstep
        · cases hstep
        · rename_i hlen
          exact Option.some.inj hstep ▸ payloadRead_tracks h hreading (Nat.not_lt.mp hlen)
  | runGameStrand =>
      simp only [step] at hstep
      split at hstep
      · cases hstep
      · rename_i packet rest hstrand
        obtain rfl := Option.some.inj hstep
        have hhanded : s.dispatched ++ [packet] ++ rest = s.handed := by
          rw [handed, hstrand, List.append_assoc, List.singleton_append]
        refine ⟨?_, ?_, h.payload, h.stopped, h.buffer, ?_⟩
        · show stream = (s.dispatched ++ [packet] ++ rest).flatMap framed ++ (s.begun ++ s.stream)
          rw [hhanded]
          exact h.layout
        · show ∀ p ∈ s.dispatched ++ [packet] ++ rest, Fits p
          rw [hhanded]
          exact h.fits
        · intro hlink
          rw [h.strand hlink] at hstrand
          cases hstrand

/-! ## Any stream -/

/-- What is handed on are the payloads of the stream, each directly behind its
    header; a read fits into its buffer; and nothing is handed on from behind the
    first header out of range. -/
structure Sound (stream : List UInt8) (s : FrameReader) : Prop where
  layout : ∃ rest, stream = s.handed.flatMap framed ++ rest
  fits : ∀ packet ∈ s.handed, Fits packet
  room : ∀ size, s.reading = some (.payload size) → size.toNat ≤ s.buffer.length
  stops : ∀ packets (h : PacketHeader) rest, (∀ packet ∈ packets, Fits packet) → ¬ h.InRange →
    stream = packets.flatMap framed ++ (h.bytes ++ rest) → s.handed <+: packets

theorem Tracks.sound {link : LinkEnd} {stream : List UInt8} {s : FrameReader}
    (h : s.Tracks link stream) : s.Sound stream := by
  refine ⟨⟨_, h.layout⟩, h.fits, fun size hread => (h.payload size hread).2.2.2, ?_⟩
  intro packets header rest hfits hout hstream
  obtain ⟨others, rfl, -⟩ := framed_prefixFree.cut_flatMap h.fits hfits
    (endsHere_of_not_inRange hout rest) (h.layout.symm.trans hstream)
  exact List.prefix_append _ _

/-! ## A stream of packets -/

/-- What was handed on are the first packets of the stream. -/
theorem Tracks.handed_prefix {link : LinkEnd} {packets : List (UInt16 × List UInt8)}
    {s : FrameReader} (hfits : ∀ packet ∈ packets, Fits packet)
    (h : s.Tracks link (packets.flatMap framed)) :
    ∃ rest, packets = s.handed ++ rest ∧ s.begun ++ s.stream = rest.flatMap framed := by
  have hend : EndsHere framed Fits [] := endsHere_nil fun packet _ => framed_ne_nil packet
  have hcut : s.handed.flatMap framed ++ (s.begun ++ s.stream) = packets.flatMap framed ++ [] := by
    rw [← h.layout, List.append_nil]
  obtain ⟨rest, hpackets, hrest⟩ := framed_prefixFree.cut_flatMap h.fits hfits hend hcut
  exact ⟨rest, hpackets, hrest.trans (List.append_nil _)⟩

/-- The loop does not end on a stream of packets. -/
theorem Tracks.reading_ne_none {link : LinkEnd} {packets : List (UInt16 × List UInt8)}
    {s : FrameReader} (hfits : ∀ packet ∈ packets, Fits packet)
    (h : s.Tracks link (packets.flatMap framed)) : s.reading ≠ none := by
  intro hreading
  obtain ⟨rest, hpackets, hrest⟩ := h.handed_prefix hfits
  have hbegun : s.begun = s.header.bytes := by simp only [begun, hreading]
  rw [hbegun] at hrest
  cases rest with
  | nil => cases hrest
  | cons packet others =>
      have hpacket : Fits packet := hfits packet (by rw [hpackets]; simp)
      exact endsHere_of_not_inRange (h.stopped hreading) s.stream packet _ hpacket hrest

/-- When nothing more can happen, all packets were dispatched. -/
theorem Tracks.dispatched_eq {link : LinkEnd} {packets : List (UInt16 × List UInt8)}
    {s : FrameReader} (hfits : ∀ packet ∈ packets, Fits packet)
    (h : s.Tracks link (packets.flatMap framed)) (hdone : ∀ label, step link s label = none) :
    s.dispatched = packets := by
  obtain ⟨rest, hpackets, hrest⟩ := h.handed_prefix hfits
  have hstrand : s.gameStrand = [] := by
    cases hstrand : s.gameStrand with
    | nil => rfl
    | cons packet others =>
        have hrun := hdone .runGameStrand
        simp only [step, hstrand] at hrun
        cases hrun
  have hhanded : s.handed = s.dispatched := by rw [handed, hstrand, List.append_nil]
  cases rest with
  | nil => rw [hpackets, hhanded, List.append_nil]
  | cons packet others =>
      -- the next packet is there as a whole, so a read could complete
      have hpacket : Fits packet := hfits packet (by rw [hpackets]; simp)
      have hnext : s.begun ++ s.stream = framed packet ++ others.flatMap framed := hrest
      have hread := hdone .read
      simp only [step] at hread
      cases hreading : s.reading with
      | none => exact absurd hreading (h.reading_ne_none hfits)
      | some op =>
          rw [hreading] at hread
          cases op with
          | header =>
              have hbegun : s.begun = [] := by simp only [begun, hreading]
              rw [hbegun, List.nil_append] at hnext
              have hlen : ¬ s.stream.length < PacketHeader.byteSize := by
                rw [hnext, framed]
                simp only [List.length_append, PacketHeader.bytes, PacketHeader.byteSize,
                  List.length_cons]
                omega
              simp only [if_neg hlen] at hread
              cases hread
          | payload size =>
              obtain ⟨hin, hsize, -⟩ := h.payload size hreading
              have hbegun : s.begun = s.header.bytes := by simp only [begun, hreading]
              rw [hbegun, framed, List.append_assoc] at hnext
              obtain ⟨hheader, hstream⟩ := PacketHeader.bytes_inj hnext
              have hlen : ¬ s.stream.length < size.toNat := by
                have hpayload : size.toNat = packet.2.length := by
                  rw [hsize, PacketHeader.payloadSize_toNat hin.1, hheader, hpacket.size]
                  omega
                rw [hstream, hpayload, List.length_append]
                omega
              simp only [if_neg hlen] at hread
              cases hread

/-- How much there is to do at most. -/
def work (s : FrameReader) : Nat := 2 * s.stream.length + s.gameStrand.length

theorem handOn_work (link : LinkEnd) (s : FrameReader) (packet : UInt16 × List UInt8) :
    (s.handOn link packet).work ≤ s.work + 1 := by
  cases link with
  | gatewaySession =>
      show 2 * s.stream.length + (s.gameStrand ++ [packet]).length ≤ _
      rw [List.length_append]
      exact Nat.le_refl _
  | gameConnection | serverSession => exact Nat.le_succ _

theorem headerRead_work (link : LinkEnd) (s : FrameReader) (h : PacketHeader) :
    (s.headerRead link h).work ≤ s.work + 1 := by
  unfold headerRead
  dsimp only
  split
  · exact Nat.le_succ _
  · split
    · exact handOn_work link { s with header := h, reading := none } (h.id, [])
    · split
      · exact Nat.le_succ _
      · exact Nat.le_succ _

/-- Every step does some of it. -/
theorem step_work {link : LinkEnd} {stream : List UInt8} {s s' : FrameReader} {label : Label}
    (h : s.Tracks link stream) (hstep : step link s label = some s') : s'.work < s.work := by
  have hread : ∀ (t : FrameReader) (n : Nat), 0 < n → n ≤ s.stream.length →
      t.work ≤ 2 * (s.stream.drop n).length + s.gameStrand.length + 1 → t.work < s.work := by
    intro t n hpos hn ht
    rw [List.length_drop] at ht
    unfold work at *
    omega
  cases label with
  | read =>
      simp only [step] at hstep
      split at hstep
      · cases hstep
      · split at hstep
        · cases hstep
        · rename_i hlen
          obtain rfl := Option.some.inj hstep
          exact hread _ _ (by decide) (Nat.not_lt.mp hlen) (headerRead_work link _ _)
      · rename_i size hreading
        split at hstep
        · cases hstep
        · rename_i hlen
          obtain rfl := Option.some.inj hstep
          obtain ⟨-, -, hpos, -⟩ := h.payload size hreading
          exact hread _ _ hpos (Nat.not_lt.mp hlen) (handOn_work link _ _)
  | runGameStrand =>
      simp only [step] at hstep
      split at hstep
      · cases hstep
      · rename_i packet rest hstrand
        obtain rfl := Option.some.inj hstep
        show 2 * s.stream.length + rest.length < 2 * s.stream.length + s.gameStrand.length
        rw [hstrand, List.length_cons]
        omega

/-- A run is at an end after so many steps. -/
theorem exec_work {link : LinkEnd} {stream : List UInt8} {s t : FrameReader} {labels : List Label}
    (h : s.Tracks link stream) (hrun : exec (step link) s labels = some t) :
    labels.length + t.work ≤ s.work := by
  induction labels generalizing s with
  | nil =>
      obtain rfl := Option.some.inj hrun
      exact Nat.le_of_eq (Nat.zero_add _)
  | cons label labels ih =>
      obtain ⟨s', hstep, hrest⟩ := exec_cons_some.mp hrun
      have hless := step_work h hstep
      have hmore := ih (step_tracks h hstep) hrest
      rw [List.length_cons]
      omega

/-- Every end: packets of up to 4092 bytes that the other end sends are dispatched
    as they are and in their order, which takes at most twice as many steps as there
    are bytes; and whatever the bytes are, only payloads of the stream are handed on,
    a read fits into its buffer, and nothing is handed on from behind the first
    header out of range. -/
theorem link_framing (link : LinkEnd) :
    (∀ packets : List (UInt16 × List UInt8), (∀ packet ∈ packets, Fits packet) →
      ∃ frames, packets.mapM (fun packet => link.peerFrame packet.1 packet.2) = some frames ∧
        ∀ labels s, exec (step link) (start link frames.flatten) labels = some s →
          s.handed <+: packets ∧ labels.length ≤ 2 * frames.flatten.length ∧
            ((∀ label, step link s label = none) → s.dispatched = packets)) ∧
      ∀ stream labels, Always (step link) (Sound stream) (start link stream) labels := by
  constructor
  · intro packets hfits
    have hframes : packets.mapM (fun packet => link.peerFrame packet.1 packet.2)
        = some (packets.map framed) := by
      induction packets with
      | nil => rfl
      | cons packet packets ih =>
          obtain ⟨hpacket, hrest⟩ := List.forall_mem_cons.mp hfits
          rw [List.mapM_cons, peerFrame_eq link hpacket, ih hrest]
          rfl
    refine ⟨_, hframes, fun labels s hrun => ?_⟩
    have htracks : s.Tracks link (packets.flatMap framed) :=
      exec_inv step_tracks (start_tracks link _) hrun
    refine ⟨?_, ?_, htracks.dispatched_eq hfits⟩
    · obtain ⟨rest, hpackets, -⟩ := htracks.handed_prefix hfits
      rw [hpackets]
      exact List.prefix_append _ _
    · have hwork := exec_work (start_tracks link _) hrun
      simp only [work, start, List.length_nil] at hwork
      omega
  · intro stream labels
    have htracks : Always (step link) (Tracks link stream) (start link stream) labels :=
      always_of_meets (C := fun _ _ => True) (fun h _ => step_tracks h) (start_tracks link stream)
        meets_true
    exact htracks.imp fun s h => h.sound

end FrameReader

end MMOServers.Network
