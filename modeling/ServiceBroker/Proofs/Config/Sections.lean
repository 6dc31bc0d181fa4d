import ServiceBroker.Config.Broker
import ServiceBroker.Proofs.Duration
import ServiceBroker.Proofs.Json.Records

/-!
# Printed sections of a configuration

A section that was printed is read back with all its settings: topics are texts, timeouts are spans
that are written in units, and a limit is read back if it is a size.

## Main results

* `SyncConfig.readsAs`, `DeliveryConfig.readsAs`: every section of texts and spans is read back;
* `SubscriptionConfig.readBytes_print_iff`: the sections of a limit that are read back;
* `readBytes_print_sections`: the sections as whole texts.
-/

namespace ServiceBroker

open Json (ReadsAs FillsAs)

variable {depth : Nat}

/-- A span is read back from its units. -/
theorem Duration.readsAs (d : Duration) : ReadsAs read depth d.toJson (.ok d) := by
  unfold read toJson
  exact .parsed d.parse?_display

/-! ## Registry synchronization and delivery -/

theorem SyncConfig.readsAs (c : SyncConfig) :
    ReadsAs record.read (depth + 1) c.toJson (.ok c) := by
  have hfills : FillsAs record.fields depth true record.empty
      [("topic", .string c.topic), ("resubscribe_delay", c.resubscribeDelay.toJson)]
      (.ok { topic := some c.topic, resubscribeDelay := some c.resubscribeDelay }) :=
    .put rfl rfl (.string _ _) (.put rfl rfl c.resubscribeDelay.readsAs .nil)
  exact Json.Record.readsAs hfills

theorem DeliveryConfig.readsAs (c : DeliveryConfig) :
    ReadsAs record.read (depth + 1) c.toJson (.ok c) := by
  have hfills : FillsAs record.fields depth true record.empty
      [("send_timeout", c.sendTimeout.toJson)] (.ok (some c.sendTimeout)) :=
    .put rfl rfl c.sendTimeout.readsAs .nil
  exact Json.Record.readsAs hfills

/-! ## Subscriptions -/

namespace SubscriptionConfig

theorem readsAs {c : SubscriptionConfig} (h : c.maxDescriptorsPerConsumer ≤ largestSize) :
    ReadsAs record.read (depth + 1) c.toJson (.ok c) := by
  have hfills : FillsAs record.fields depth true record.empty
      [("max_descriptors_per_consumer", .integer c.maxDescriptorsPerConsumer)]
      (.ok (some c.maxDescriptorsPerConsumer)) :=
    .put rfl rfl (.nat h (by decide) _) .nil
  exact Json.Record.readsAs hfills

/-- A limit that has been read is a size, whether it was there or not. -/
private theorem le_largestSize_of_read {size : Nat} {bytes rest : Bytes} {c : SubscriptionConfig}
    (h : record.read (depth + 1) size bytes = .ok (c, rest)) :
    c.maxDescriptorsPerConsumer ≤ largestSize := by
  have hkeeps : ∀ field ∈ record.fields,
      field.Keeps (fun draft : Option Nat => ∀ n ∈ draft, n ≤ largestSize) depth := by
    unfold record
    simp only [List.forall_mem_singleton]
    refine Json.Field.keeps_of fun _ _ _ _ _ _ hread n hn => ?_
    cases hn
    exact Json.le_of_readNat hread
  obtain ⟨draft, hdraft, hfinish⟩ :=
    Json.Record.exists_draft_of_read (fun _ hn => by cases hn) hkeeps h
  cases hfinish
  cases draft with
  | none => decide
  | some n => exact hdraft n rfl

/-- The sections that are read back are those whose limit is a size. -/
theorem readBytes_print_iff (c : SubscriptionConfig) :
    Json.readBytes record.read c.toJson.print = .ok c ↔
      c.maxDescriptorsPerConsumer ≤ largestSize := by
  constructor
  · intro h
    obtain ⟨_, hread⟩ := Json.exists_read_of_readBytes h
    exact le_largestSize_of_read hread
  · intro h
    exact Json.readBytes_print (readsAs h)

end SubscriptionConfig

/-! ## Whole texts -/

/-- Each section that was printed is read back, with any texts and spans and with a limit that is a
size; and a span as it is written, by itself, means the same span. -/
theorem readBytes_print_sections :
    (∀ c : SyncConfig, Json.readBytes SyncConfig.record.read c.toJson.print = .ok c) ∧
    (∀ c : DeliveryConfig, Json.readBytes DeliveryConfig.record.read c.toJson.print = .ok c) ∧
    (∀ c : SubscriptionConfig,
      Json.readBytes SubscriptionConfig.record.read c.toJson.print = .ok c ↔
        c.maxDescriptorsPerConsumer ≤ largestSize) ∧
    ∀ d : Duration, Duration.parse? d.display = some d :=
  ⟨fun c => Json.readBytes_print c.readsAs, fun c => Json.readBytes_print c.readsAs,
    SubscriptionConfig.readBytes_print_iff, Duration.parse?_display⟩

end ServiceBroker
