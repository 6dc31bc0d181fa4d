import ServiceBroker.Proofs.Gateway.PushAnswers
import ServiceBroker.Proofs.Gateway.Registration
import ServiceBroker.Proofs.Notification

/-!
# Frames that consumers can read

Whatever notification the gateway takes, the frame that it pushes to the consumers of the
notification can be read by them.

- `Gateway.channels_pushNotification`: one frame goes to each consumer that was matched, and nothing
  else happens to the live channels;
- `Gateway.pushed_frame_readable`: this frame holds the notification and its producer.
-/

namespace ServiceBroker.Gateway

open Http (Request)

variable {replica : Replica} {r : Request} {notification : Notification}

/-- The frame of a notification is pushed to all consumers that are matched, whether the pushes end
at once or are waited for. -/
theorem channels_pushNotification
    (hbody : decodeBody replica.config.gateway Notification.record.read r = .ok notification)
    (producer : Urn) :
    ∃ reply replica', pushNotification replica producer r = .ok (reply, replica') ∧
      replica'.channels =
        (replica.index.subscribers producer notification.descriptor.key).foldl
          (fun channels consumer =>
            (channels.push consumer (notification.envelope producer).frame).2)
          replica.channels := by
  have hpushed := Dispatch.channels_startAll replica.now (notification.envelope producer).frame
    (replica.index.subscribers producer notification.descriptor.key) replica.channels
  -- the channels are those of the started delivery, with or without a report
  rw [pushNotification_of_body hbody]
  split
  case h_1 => exact ⟨_, _, rfl, hpushed⟩
  case h_2 => exact ⟨_, _, rfl, hpushed⟩

/-- Consumers can read what is pushed to them. A notification that the gateway takes, in whatever
form and however deeply its payload nests, is pushed in one frame to each consumer that is matched,
and the frame holds the notification and its producer. -/
theorem pushed_frame_readable
    (hbody : decodeBody replica.config.gateway Notification.record.read r = .ok notification)
    (hwhole : notification.payload.reals = []) (producer : Urn) :
    ∃ frame envelope,
      (∃ reply replica', pushNotification replica producer r = .ok (reply, replica') ∧
        replica'.channels =
          (replica.index.subscribers producer notification.descriptor.key).foldl
            (fun channels consumer => (channels.push consumer frame).2) replica.channels) ∧
      Json.readBytes Envelope.record.read frame = .ok envelope ∧
      envelope.name = notification.name ∧ envelope.version = notification.version ∧
      envelope.payload = notification.payload ∧ envelope.urn = producer := by
  have hreals : ∀ x ∈ notification.payload.reals, Json.reread x = .ok x := by
    rw [hwhole]
    exact List.forall_mem_nil _
  exact ⟨(notification.envelope producer).frame, notification.envelope producer,
    channels_pushNotification hbody producer,
    Notification.readBytes_frame (readBytes_of_decodeBody hbody) hreals producer, rfl, rfl, rfl,
    rfl⟩

/-- A replica at which a client has asked for one class of notifications. -/
def asked : Replica :=
  { lone with
    index := (SubscriptionIndex.run 1 [.add ⟨"c", "d"⟩ (.namespaceWide "a") [⟨"n", "1", ""⟩]]).2 }

/-- A request to push a notification. -/
def notifyRequest (n : Notification) : Request where
  method := "POST"
  path := Bytes.ofString "/notifications"
  body := n.toJson.print

/-- A notification with a payload that nests as deeply as can be read. -/
def deep : Notification := { name := "n", version := "1", payload := nested 126 }

private theorem decodeBody_notifyRequest_deep :
    decodeBody asked.config.gateway Notification.record.read (notifyRequest deep) = .ok deep := by
  have hbody : readBody asked.config.gateway (notifyRequest deep) = .ok deep.toJson.print := by
    decide +kernel
  have hread : deep.payload.reread (Json.maxDepth - 1) = .ok deep.payload :=
    Json.Value.reread_eq_ok_self_iff.mpr (by decide +kernel)
  have hprint := Json.readBytes_print (deep.readsAs (canonical_nested 126))
  exact decodeBody_of_readBytes hbody (hprint.trans (congrArg (Except.map _) hread))

/-- Of the containers that can be opened, all are: one by the notification, and the others by its
payload. -/
theorem pushed_frame_readable_deep :
    asked.index.subscribers ⟨"a", "b"⟩ deep.descriptor.key = [⟨"c", "d"⟩] ∧
    ∃ frame envelope,
      (∃ reply replica', pushNotification asked ⟨"a", "b"⟩ (notifyRequest deep) =
          .ok (reply, replica') ∧
        replica'.channels = (asked.index.subscribers ⟨"a", "b"⟩ deep.descriptor.key).foldl
          (fun channels consumer => (channels.push consumer frame).2) asked.channels) ∧
      Json.readBytes Envelope.record.read frame = .ok envelope ∧
      envelope.name = "n" ∧ envelope.version = "1" ∧ envelope.payload = nested 126 ∧
      envelope.urn = ⟨"a", "b"⟩ :=
  ⟨by decide +kernel,
    pushed_frame_readable decodeBody_notifyRequest_deep (by decide +kernel) ⟨"a", "b"⟩⟩

end ServiceBroker.Gateway
