import SocksProxy.Theorems.Accounting
import SocksProxy.Theorems.ManagementExchange
import SocksProxy.Theorems.UsersListing

/-!
# What the metrics report

The answer to `STATS` is a text of seven lines, each a key with a number. Whoever reads the lines back by their keys finds what the
sessions of the process had done at the moment the line of the question was complete.
-/

namespace SocksProxy

/-- A line whose command asks for the metrics. -/
def AsksMetrics (readBuffer : List Byte) : Prop :=
  ∃ command ∈ (managementWords readBuffer).head?, Spells command "STATS" ∨ Spells command "METRICS"

/-- The keys of the metrics. -/
def metricsKeys : List (List Byte) :=
  [ascii "historical_connections=", ascii "concurrent_connections=", ascii "successful_connections=",
    ascii "failed_connections=", ascii "bytes_transferred=", ascii "bytes_client_to_target=", ascii "bytes_target_to_client="]

/-- The lines of the metrics: their keys and their numbers. -/
def ServerMetrics.figures (metrics : ServerMetrics) : List (List Byte × Nat) :=
  [(ascii "historical_connections=", metrics.historicalConnections.toNat),
    (ascii "concurrent_connections=", metrics.concurrentConnections.toNat),
    (ascii "successful_connections=", metrics.successfulConnections.toNat),
    (ascii "failed_connections=", metrics.failedConnections.toNat),
    (ascii "bytes_transferred=", metrics.totalTransferredBytes.toNat),
    (ascii "bytes_client_to_target=", metrics.bytesClientToTarget.toNat),
    (ascii "bytes_target_to_client=", metrics.bytesTargetToClient.toNat)]

/-- The bytes that all sessions together have passed on to a peer. -/
def Server.passedOn (s : Server) (peer : Peer) : Nat :=
  ∑ sid ∈ Finset.range s.nextObject, (Act.passedOn peer (s.acts sid)).length

/-! ## The text -/

section Text

variable (users : ManagedUsers) (metrics : ServerMetrics) {readBuffer : List Byte}

/-- The text of the metrics is that of their lines. -/
theorem formatMetricsResponse_eq :
    formatMetricsResponse metrics = Lines.text lineFeed (metrics.figures.map fun x => x.1 ++ decimal x.2) := by
  have heol : ascii "\n" = [lineFeed] := by decide
  unfold formatMetricsResponse ServerMetrics.figures
  generalize ascii "\n" = eol at heol ⊢
  subst heol
  simp only [Lines.text, List.map_cons, List.map_nil, List.flatMap_cons, List.flatMap_nil, List.append_nil, List.append_assoc]

/-- The keys of the metrics have no end of line and no NUL, and are short. -/
theorem figures_keys : ∀ x ∈ metrics.figures, lineFeed ∉ x.1 ∧ (0 : Byte) ∉ x.1 ∧ x.1.length ≤ 23 ∧ x.2 < 2 ^ 64 := by
  intro x hx
  have hkeys : ∀ key ∈ metricsKeys, lineFeed ∉ key ∧ (0 : Byte) ∉ key ∧ key.length ≤ 23 := by decide
  have hmem : x.1 ∈ metricsKeys := List.mem_map_of_mem (f := Prod.fst) hx
  obtain ⟨h1, h2, h3⟩ := hkeys x.1 hmem
  refine ⟨h1, h2, h3, ?_⟩
  simp only [ServerMetrics.figures, List.mem_cons, List.not_mem_nil, or_false] at hx
  rcases hx with rfl | rfl | rfl | rfl | rfl | rfl | rfl <;> exact UInt64.toNat_lt _

/-- A number of 64 bits has at most twenty digits. -/
theorem length_decimal_le {n : Nat} (h : n < 2 ^ 64) : (decimal n).length ≤ 20 := by
  rw [decimal, List.length_map]
  exact (Nat.length_toDigits_le_iff (by decide) (by decide)).mpr (Nat.lt_of_lt_of_le h (by decide))

/-- The metrics are written out whole. -/
theorem formatMetricsResponse_fits :
    (0 : Byte) ∉ formatMetricsResponse metrics ∧ (formatMetricsResponse metrics).length < managementBufferSize := by
  rw [formatMetricsResponse_eq]
  constructor
  · intro hm
    obtain ⟨line, hline, hm⟩ := List.mem_flatMap.mp hm
    obtain ⟨x, hx, rfl⟩ := List.mem_map.mp hline
    obtain ⟨_, hkey, _⟩ := figures_keys metrics x hx
    rcases List.mem_append.mp hm with hm | hm
    · rcases List.mem_append.mp hm with hm | hm
      · exact hkey hm
      · exact absurd (digit_of_mem_decimal hm).1 (by decide)
    · exact absurd hm (by decide)
  · have hlen : ∀ l : List (List Byte × Nat), (∀ x ∈ l, x.1.length ≤ 23 ∧ x.2 < 2 ^ 64) →
        (Lines.text lineFeed (l.map fun x => x.1 ++ decimal x.2)).length ≤ 44 * l.length := by
      intro l hl
      induction l with
      | nil => exact Nat.le_refl 0
      | cons x l ih =>
        obtain ⟨⟨hkey, hn⟩, hrest⟩ := List.forall_mem_cons.mp hl
        have := ih hrest
        have := length_decimal_le hn
        simp only [List.map_cons, Lines.text_cons, List.length_append, List.length_cons]
        omega
    exact Nat.lt_of_le_of_lt (hlen _ fun x hx => (figures_keys metrics x hx).2.2) (by decide : 44 * 7 < managementBufferSize)

/-- Each number is found under its key, and no other is. -/
theorem replyValues_figures {key : List Byte} {n : Nat} (h : (key, n) ∈ metrics.figures) :
    replyValues key (formatMetricsResponse metrics) = [decimal n] := by
  have hlines : ∀ line ∈ metrics.figures.map fun x => x.1 ++ decimal x.2, lineFeed ∉ line := by
    intro line hline hm
    obtain ⟨x, hx, rfl⟩ := List.mem_map.mp hline
    rcases List.mem_append.mp hm with hm | hm
    · exact (figures_keys metrics x hx).1 hm
    · exact absurd (digit_of_mem_decimal hm).1 (by decide)
  rw [replyValues, formatMetricsResponse_eq, Lines.complete_text hlines]
  simp only [ServerMetrics.figures, List.mem_cons, Prod.mk.injEq, List.not_mem_nil, or_false] at h
  have hother : ∀ {key key' : List Byte} (n : Nat), ¬key <+: key' → ¬key' <+: key → lineValue key (key' ++ decimal n) = none :=
    fun n h h' => lineValue_other h h' _
  rcases h with ⟨rfl, rfl⟩ | ⟨rfl, rfl⟩ | ⟨rfl, rfl⟩ | ⟨rfl, rfl⟩ | ⟨rfl, rfl⟩ | ⟨rfl, rfl⟩ | ⟨rfl, rfl⟩
  all_goals
    simp only [ServerMetrics.figures, List.map_cons, List.map_nil, List.filterMap_cons, List.filterMap_nil, lineValue_key]
    repeat rw [hother _ (by decide) (by decide)]

/-- The response to a line whose command asks for the metrics. -/
theorem managementReply_metrics (h : AsksMetrics readBuffer) :
    managementReply users metrics readBuffer = formatMetricsResponse metrics := by
  obtain ⟨word, hword, hspells⟩ := h
  obtain ⟨c, a1, a2, a3, line1, line2, line3, ht⟩ := strtoks readBuffer
  have hcommand := ht.command
  rw [← List.head?_eq_getElem?, Option.mem_def.mp hword] at hcommand
  obtain ⟨c, rfl, rfl⟩ := Option.map_eq_some_iff.mp hcommand
  have hyes : (strcaseeq c "STATS" || strcaseeq c "METRICS") = true := by
    rw [strcaseeq_eq, strcaseeq_eq, ← Bool.decide_or, decide_eq_true hspells]
  have hresponse : managementPrepareResponse users metrics readBuffer = (users, formatMetricsResponse metrics) := by
    unfold managementPrepareResponse
    simp only [ht.first, ht.second, ht.third]
    rw [if_pos hyes]
  exact managementReply_eq hresponse (formatMetricsResponse_fits metrics).1 (formatMetricsResponse_fits metrics).2

end Text

/-! ## What the numbers are -/

/-- A counter that counted modulo 2^64. -/
theorem toNat_of_counted {counter : UInt64} {n : Nat} (h : counter = UInt64.ofNat n) : counter.toNat = n % 2 ^ 64 := by
  rw [h, UInt64.toNat_ofNat']

section Run

variable (c : Config) (es : List Event)

/-- The counters that only grow. -/
theorem run_totals :
    (run c.start es).metrics.historicalConnections = UInt64.ofNat ((run c.start es).sessionsThat .accepted) ∧
    (run c.start es).metrics.successfulConnections = UInt64.ofNat ((run c.start es).sessionsThat .succeeded) ∧
    (run c.start es).metrics.failedConnections = UInt64.ofNat ((run c.start es).sessionsThat .failed) := by
  have hsettled := run_settled c es
  obtain ⟨h1, h2, h3⟩ := Accounts.totals_fold (run c.start es).trace .zeroed
  rw [← (run_inv c es).accounts] at h1 h2 h3
  rw [run_sessionsThat c es fun sid => (hsettled sid).2, run_sessionsThat c es fun sid => by have := hsettled sid; omega,
    run_sessionsThat c es fun sid => by have := hsettled sid; omega]
  exact ⟨h1.trans (UInt64.zero_add _), h2.trans (UInt64.zero_add _), h3.trans (UInt64.zero_add _)⟩

/-- The counter that goes up and down. -/
theorem run_concurrent (hlt : (run c.start es).sessionsThat .accepted < 2 ^ 64) :
    (run c.start es).metrics.concurrentConnections.toNat = (run c.start es).liveSessions := by
  have hopens := run_sessionsThat c es (a := .accepted) fun sid => (run_settled c es sid).2
  obtain ⟨_, hconc⟩ := Accounts.open_fold fun pre post => run_trace_causal c es
  rw [← (run_inv c es).accounts] at hconc
  exact Nat.add_right_cancel ((hconc (hopens ▸ hlt)).trans (run_liveSessions c es).symm)

/-- The counters of the bytes. -/
theorem run_bytes :
    (run c.start es).metrics.bytesClientToTarget = UInt64.ofNat ((run c.start es).passedOn .client) ∧
    (run c.start es).metrics.bytesTargetToClient = UInt64.ofNat ((run c.start es).passedOn .target) := by
  have hsum : ∀ peer, (run c.start es).passedOn peer = Obs.passedOn peer (run c.start es).trace :=
    fun peer => Obs.sum_passedOn peer fun sid h => run_acts_fresh c es h
  have hbytes := Accounts.bytes_fold (run c.start es).trace .zeroed
  rw [← (run_inv c es).accounts] at hbytes
  rw [hsum, hsum]
  exact ⟨hbytes.1.trans (UInt64.zero_add _), hbytes.2.trans (UInt64.zero_add _)⟩

end Run

/-- The answer to `STATS`, for every run and every management connection that has sent a line which asks for the metrics. It was
prepared at the moment at which the line was complete, and whoever reads it finds each key once, with the number of what the sessions
had done by then: how many were ever accepted, how many are there, how many requests have succeeded and how many have failed, and the
bytes that were passed on in each direction and in both. The numbers are modulo 2^64; that of the sessions which are there is exact,
as long as no more than 2^64 were ever accepted. -/
theorem metrics_reported (c : Config) (es : List Event) (mid : Nat) (hc : LineComplete (c.received mid es))
    (h : AsksMetrics (c.received mid es)) :
    ∃ pre e post reply, es = pre ++ e :: post ∧ ¬LineComplete (c.received mid pre) ∧
      LineComplete (c.received mid (pre ++ [e])) ∧ c.answers mid es = [reply] ∧
      replyValues (ascii "historical_connections=") reply = [decimal ((run c.start pre).sessionsThat .accepted % 2 ^ 64)] ∧
      ((run c.start pre).sessionsThat .accepted < 2 ^ 64 →
        replyValues (ascii "concurrent_connections=") reply = [decimal (run c.start pre).liveSessions]) ∧
      replyValues (ascii "successful_connections=") reply = [decimal ((run c.start pre).sessionsThat .succeeded % 2 ^ 64)] ∧
      replyValues (ascii "failed_connections=") reply = [decimal ((run c.start pre).sessionsThat .failed % 2 ^ 64)] ∧
      replyValues (ascii "bytes_client_to_target=") reply = [decimal ((run c.start pre).passedOn .client % 2 ^ 64)] ∧
      replyValues (ascii "bytes_target_to_client=") reply = [decimal ((run c.start pre).passedOn .target % 2 ^ 64)] ∧
      replyValues (ascii "bytes_transferred=") reply =
        [decimal (((run c.start pre).passedOn .client + (run c.start pre).passedOn .target) % 2 ^ 64)] := by
  obtain hnil | ⟨pre, e, post, rfl, hp⟩ := @run_answers c mid es
  · exact absurd hc (run_unanswered c es hnil)
  · obtain ⟨hline, hdone, hno, ha⟩ := run_prepared c pre e post hp
    rw [managementReply_metrics _ _ h] at ha
    obtain ⟨hhist, hsucc, hfail⟩ := run_totals c pre
    obtain ⟨hc2t, ht2c⟩ := run_bytes c pre
    have hvalue : ∀ {key n m}, (key, n) ∈ (run c.start pre).metrics.figures → n = m →
        replyValues key (formatMetricsResponse (run c.start pre).metrics) = [decimal m] := by
      intro key n m hm he
      rw [replyValues_figures _ hm, he]
    refine ⟨pre, e, post, _, rfl, hno, (run_prepares c pre hp).1 ▸ hc, ha, hvalue (.head _) (toNat_of_counted hhist),
      fun hlt => hvalue (.tail _ (.head _)) (run_concurrent c pre hlt), hvalue (.tail _ (.tail _ (.head _))) (toNat_of_counted hsucc),
      hvalue (.tail _ (.tail _ (.tail _ (.head _)))) (toNat_of_counted hfail),
      hvalue (.tail _ (.tail _ (.tail _ (.tail _ (.tail _ (.head _)))))) (toNat_of_counted hc2t),
      hvalue (.tail _ (.tail _ (.tail _ (.tail _ (.tail _ (.tail _ (.head _))))))) (toNat_of_counted ht2c),
      hvalue (.tail _ (.tail _ (.tail _ (.tail _ (.head _))))) (toNat_of_counted ?_)⟩
    rw [ServerMetrics.totalTransferredBytes, hc2t, ht2c, ← UInt64.ofNat_add]

/-- A session and a management connection are accepted, and the connection asks for the metrics. -/
def metricsRun : List Event :=
  [.read 3 { accepts := [.accepted 5 .ok true] }, .read 4 { accepts := [.accepted 6 .ok true] },
    .read 6 { recv := .data (ascii "stats\r\n") }]

/-- The metrics of a process with one session. -/
theorem metrics_reported_one :
    ∃ pre reply, pre <+: metricsRun ∧ (Config.first .zeroed).answers 1 metricsRun = [reply] ∧
      replyValues (ascii "historical_connections=") reply =
        [decimal ((run (Config.first .zeroed).start pre).sessionsThat .accepted % 2 ^ 64)] := by
  obtain ⟨pre, e, post, reply, hes, _, _, ha, hhist, _⟩ := metrics_reported (.first .zeroed) metricsRun 1 (by decide +kernel)
    ⟨ascii "stats", by decide +kernel, .inl (by decide)⟩
  exact ⟨pre, reply, ⟨e :: post, hes.symm⟩, ha, hhist⟩

end SocksProxy
