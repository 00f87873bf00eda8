import PolicyTrial.Host.Basic
import PolicyTrial.Proofs.Judgement.StartupExit

/-!
# What is kept of an error stream

A stream arrives in chunks, and where one chunk ends and the next one begins is an accident. What
`Capture.drain` keeps does not depend on it. The invariant of the loop is that it has kept the start
of what it has read (`drain_chunks`): a chunk behind it makes that a longer start of a longer stream
(`keep_take`), be there room for the whole chunk, for a part of it, or for nothing. Nothing in the
loop looks at the room that is left, so it comes to the end of the stream in any case.

`Readiness.reading` is the contract of a host that tells what a drained error stream has left. Under
it, the failure of a server that exits early is a function of the exit and of the stream
(`start_kept`).
-/

namespace PolicyTrial

namespace Capture

/-- A stream arrives in some chunks, each of which one read can come to. -/
structure Arrives (stream : Bytes) (chunks : List Bytes) : Prop where
  flatten_eq : chunks.flatten = stream
  one_le : ∀ c ∈ chunks, 1 ≤ c.length
  le_chunkSize : ∀ c ∈ chunks, c.length ≤ chunkSize

/-- The reads behind which there are no more: the end of the stream, and a failure. -/
inductive ReadEnd.IsLast : ReadEnd → Prop
  | atEnd : IsLast (.chunk [])
  | failed : IsLast .failed

theorem Arrives.ne_nil {stream : Bytes} {chunks : List Bytes} (h : Arrives stream chunks) :
    ∀ c ∈ chunks, c ≠ [] :=
  fun c hc => List.length_pos_iff.mp (h.one_le c hc)

/-- The host reads a stream in chunks that it can arrive in. -/
theorem arrives_chunks (stream : Bytes) : Arrives stream (chunks stream) := by
  have h_size : 0 < chunkSize := by decide
  fun_induction chunks stream with
  | case1 => exact ⟨rfl, nofun, nofun⟩
  | case2 stream h_some ih =>
    have h_length : 0 < stream.length := List.length_pos_iff.mpr h_some
    have h_first : (stream.take chunkSize).length = min chunkSize stream.length :=
      List.length_take
    refine ⟨?_, ?_, ?_⟩
    · rw [List.flatten_cons, ih.flatten_eq]
      exact List.take_append_drop chunkSize stream
    · refine List.forall_mem_cons.mpr ⟨?_, ih.one_le⟩
      omega
    · refine List.forall_mem_cons.mpr ⟨?_, ih.le_chunkSize⟩
      omega

/-! ### The loop -/

/-- Behind the start of what came before, a chunk is kept as far as it belongs to the start of both
together. -/
theorem keep_take (before chunk : Bytes) :
    keep (before.take limit) chunk = (before ++ chunk).take limit := by
  have h_room : limit - (before.take limit).length = limit - before.length := by
    rw [List.length_take]
    omega
  calc keep (before.take limit) chunk
      = before.take limit ++ chunk.take (limit - before.length) := by rw [keep, h_room]
    _ = (before ++ chunk).take limit := List.take_append.symm

/-- Chunks that are read make what was kept the start of a longer stream, and what comes of it all
is up to the reads behind them. -/
theorem drain_chunks (before : Bytes) {chunks : List Bytes} (h : ∀ c ∈ chunks, c ≠ [])
    (later : List ReadEnd) :
    drain (before.take limit) (chunks.map ReadEnd.chunk ++ later) =
      drain ((before ++ chunks.flatten).take limit) later := by
  induction chunks generalizing before with
  | nil => simp
  | cons c rest ih =>
    obtain ⟨hc, h_rest⟩ := List.forall_mem_cons.mp h
    calc drain (before.take limit) ((c :: rest).map ReadEnd.chunk ++ later)
        = drain (keep (before.take limit) c) (rest.map ReadEnd.chunk ++ later) := if_neg hc
      _ = drain ((before ++ c).take limit) (rest.map ReadEnd.chunk ++ later) := by rw [keep_take]
      _ = drain ((before ++ c ++ rest.flatten).take limit) later := ih (before ++ c) h_rest
      _ = drain ((before ++ (c :: rest).flatten).take limit) later := by
        rw [List.flatten_cons, List.append_assoc]

/-- Whatever comes of the reads, no more is kept than may be. -/
theorem length_drain_le {kept : Bytes} (h : kept.length ≤ limit) (reads : List ReadEnd) :
    (drain kept reads).1.length ≤ limit := by
  fun_induction drain kept reads with
  | case1 | case2 | case3 => exact h
  | case4 kept octets later _ ih => exact ih (length_keep_le h octets)

section Streams

variable {stream : Bytes} {chunks : List Bytes}

/-- As long as chunks arrive, the start of what has arrived is kept. -/
theorem drain_eq_take (h : ∀ c ∈ chunks, c ≠ []) :
    (drain [] (chunks.map ReadEnd.chunk)).1 = chunks.flatten.take limit := by
  have h_loop := drain_chunks [] h []
  rw [List.append_nil] at h_loop
  exact congrArg Prod.fst h_loop

/-- When the stream is over, its start is kept, and no read was made behind the last one. -/
theorem drain_of_arrives (h : Arrives stream chunks) {last : ReadEnd} (h_last : last.IsLast)
    (later : List ReadEnd) :
    drain [] (chunks.map ReadEnd.chunk ++ last :: later) = (stream.take limit, later) := by
  have h_loop : drain [] (chunks.map ReadEnd.chunk ++ last :: later) =
      drain (stream.take limit) (last :: later) := by
    rw [← h.flatten_eq]
    exact drain_chunks [] h.ne_nil (last :: later)
  rw [h_loop]
  cases h_last with
  | atEnd | failed => rfl

end Streams

end Capture

/-- A host tells the start of an error stream, as it is by now. -/
theorem Host.captured_eq (h : Host) (process : ProcessId) :
    (h.perform (.captured process)).1 =
      (((h.look process h.now).1.map fun t => Octets.toBytes t.err).getD []).take
        Capture.limit := by
  generalize h_stream : (((h.look process h.now).1.map fun t => Octets.toBytes t.err).getD []) =
    stream
  have h_drain := Capture.drain_of_arrives (Capture.arrives_chunks stream) .atEnd []
  have h_told : (h.perform (.captured process)).1 =
      (Capture.drain [] (Capture.reads stream)).1 := by
    rw [← h_stream]
    rfl
  rw [h_told, Capture.reads, h_drain]

namespace Readiness

open Capture (Arrives ReadEnd drain drain_of_arrives drain_eq_take length_drain_le)

/-- The contract of a host that has drained the error streams of its processes by given reads. -/
def reading (reads : List ReadEnd) : Contract where
  Permits _ _ := True
  Promises _
    | .captured _, kept => kept = (drain [] reads).1
    | _, _ => True

/-- What a server fails with that exits before it is ready, if its error stream starts with some
octets. -/
theorem await_reading (s : ServerSettings) (client : Client) (reads : List ReadEnd) (past : Past) :
    (reading reads).Ensures past (await s client) fun _ r =>
      ∀ url reason, r = .error (.serverNotStarted url reason false) →
        ∃ code, r = .error (exited client code (drain [] reads).1) := by
  have h_probe := probe_failure (c := reading reads) (fun _ _ => trivial) s client (attempts s) past
  refine h_probe.mono fun past' r h url reason hr => ?_
  obtain ⟨code, stderr, -, h_exited, h_told⟩ := h _ hr (by simp [Failure.kind])
  obtain rfl : stderr = (drain [] reads).1 := h_told
  exact ⟨code, hr.trans (congrArg Except.error h_exited)⟩

/-- A process may be seen to exit at the first look. -/
theorem exists_reading_exited (s : ServerSettings) (client : Client) (reads : List ReadEnd)
    (past : Past) (code : Option Int) :
    ∃ past', (reading reads).Reaches past (await s client) past'
      (.error (exited client code (drain [] reads).1)) := by
  obtain ⟨left, h_attempts⟩ : ∃ left, attempts s = left + 1 :=
    Nat.exists_eq_add_one.mpr (Nat.lt_of_lt_of_le Nat.one_pos (Nat.le_max_right _ _))
  rw [await, h_attempts, probe]
  exact ⟨⟨.captured client.process, (drain [] reads).1⟩ ::
      ⟨.settle client.process s.probeTimeout, ()⟩ :: ⟨.poll client.process, some code⟩ :: past,
    some code, trivial, (), trivial, (drain [] reads).1, rfl, rfl, rfl⟩

/-- **The start of a stream is kept, however it arrives.** Let a stream arrive in some chunks until
it ends or fails. Then its first 65536 octets are kept, or all of it if there are no more, and all
reads up to the last one have been made, and no more. At each step what is kept is the start of what
has been read, and never more than 65536 octets.

So a server that exits before it is ready fails with the same text in whatever chunks its error
stream has arrived: that of its exit and the start of the stream. -/
theorem start_kept {stream : Bytes} {chunks : List Bytes} (h : Arrives stream chunks)
    {last : ReadEnd} (h_last : last.IsLast) (later : List ReadEnd) :
    let reads := chunks.map ReadEnd.chunk ++ last :: later
    drain [] reads = (stream.take (min 65536 stream.length), later) ∧
    (∀ n, (drain [] ((chunks.take n).map ReadEnd.chunk)).1 =
      (chunks.take n).flatten.take 65536) ∧
    (∀ n, (drain [] (reads.take n)).1.length ≤ 65536) ∧
    ∀ (s : ServerSettings) (client : Client) (past : Past),
      let failure := fun code => Failure.serverNotStarted client.baseUrl
        ("process exited with " ++ codeText code ++ " before becoming ready\n" ++
          Bytes.lossyText (stream.take 65536)) false
      ((reading reads).Ensures past (await s client) fun _ r =>
        ∀ url reason, r = .error (.serverNotStarted url reason false) →
          ∃ code, r = .error (failure code)) ∧
      ∀ code, ∃ past', (reading reads).Reaches past (await s client) past'
        (.error (failure code)) := by
  intro reads
  have h_all : drain [] reads = (stream.take 65536, later) := drain_of_arrives h h_last later
  refine ⟨?_, fun n => ?_, fun n => ?_, fun s client past => ?_⟩
  · rw [h_all, List.take_eq_take_min]
  · exact drain_eq_take fun c hc => h.ne_nil c (List.mem_of_mem_take hc)
  · exact length_drain_le (Nat.zero_le _) _
  · have h_await := await_reading s client reads past
    have h_exists := exists_reading_exited s client reads past
    rw [h_all] at h_await h_exists
    exact ⟨h_await, h_exists⟩

/-- An error stream of 70000 octets that arrives in chunks of 1000, so that the limit falls into one
of them, and then breaks off. -/
theorem start_kept_thousands :
    let chunks : List Bytes := List.replicate 70 (List.replicate 1000 46)
    drain [] (chunks.map ReadEnd.chunk ++ [.failed, .chunk [46]]) =
      (List.replicate 65536 46, [.chunk [46]]) := by
  intro chunks
  have h_arrives : Arrives (List.replicate 70000 46) chunks := by
    refine ⟨List.flatten_replicate_replicate, fun c hc => ?_, fun c hc => ?_⟩
    · rw [List.eq_of_mem_replicate hc, List.length_replicate]
      decide
    · rw [List.eq_of_mem_replicate hc, List.length_replicate]
      decide
  obtain ⟨h_drain, -⟩ := start_kept h_arrives .failed [.chunk [46]]
  have h_kept : min (min 65536 70000) 70000 = 65536 := by decide
  rw [h_drain, List.length_replicate, List.take_replicate, h_kept]

end Readiness

end PolicyTrial
