import ClusterBroker.Proofs.Domain.Bodies
import ClusterBroker.Proofs.Json.Accepting

/-!
# Which private settings are accepted, and as what they are read

The private settings of a plan are a text.  It is accepted if it spells an object whose entries mean
settings, and then these are the settings it is read as.  `Settings.ofWritten?` says what the syntax
of a text means, `Settings.ofDetails_eq_ok` that reading private settings comes to that.

The limits of the lexical grammar are those of the parts that are read: a key has to be a text with
its surrogates in pairs, and so has every key of an option structure; the value under an unknown key
of the whole object has to keep to all limits, while that under an unknown key of an option structure
is not looked at.
-/

namespace ClusterBroker.Domain

open Json (Fault Record Node Written)

namespace Settings

/-- The settings that the syntax of a text means, with one notice for each key that is not known. -/
def ofWritten? : Written → Option (Settings × List Notice)
  | .object entries =>
    (Written.named? entries).bind (ofEntries? Written.look fun w => (w.value? 1).isSome)
  | _ => none

/-- The reader of settings, with its notices. -/
def read (node : Node) : Except Fault (Settings × List Notice) :=
  (fun x => (x.1, x.2.eraseDups.map noticeOf)) <$> gather node

lemma ofText_eq_readDocument (text : List Char) : ofText text = Json.readDocument read text := by
  rw [ofText, Json.readDocument, Json.readDocument, read]
  cases gather (Json.Document.ofText text).root with
  | error fault => rfl
  | ok found => cases h : (Json.Document.ofText text).checkEnd <;> simp <;> rfl

/-- Reading settings from a tree gives what was written means. -/
lemma read_written {node : Node} {w : Written} (h : node.Shows w) :
    (read node).toOption = ofWritten? w := by
  cases h with
  | @object start stop entries es hentries =>
      rw [read, Json.toOption_map, ofWritten?]
      cases hnamed : Written.named? es with
      | some named =>
          rw [Option.bind_some]
          refine gather_meaning _ Json.faithful_shows start stop
            ((hentries.stand hnamed).imp fun entry e he => ?_)
          exact he.imp fun hw => ⟨hw, by rw [hw.value 1]⟩
      | none =>
          obtain ⟨entry, hmem, hname⟩ := hentries.exists_unnamed hnamed
          rw [gather, Json.toOption_bind, Json.gather_unnamed hmem hname]
          rfl
  | _ => rfl

/-- Where settings can be read, the tree can be skipped. -/
lemma skim_of_read {node : Node} {found : Settings × List Notice} (h : read node = .ok found) :
    node.skim = .ok () := by
  obtain ⟨x, hgather, -⟩ := Json.map_eq_ok h
  cases node with
  | leaf l => cases hgather
  | array start items finish => cases hgather
  | object start entries finish =>
      obtain ⟨gathered, hgathered, -⟩ := Json.bind_eq_ok hgather
      refine Json.skim_of_gather (fun hknown hread => ?_) (fun hpast => ?_) hgathered start
      · exact Json.Fields.skim_of_readField (by simpa using hknown) hread
      · obtain ⟨j, hj, -⟩ := Json.map_eq_ok hpast
        exact Node.skim_of_value hj

/-- Private settings are read as what their syntax means. -/
lemma toOption_ofDetails {details : Details} {w : Written}
    (h : w.SpelledBy details.text.toList) : (ofDetails details).toOption = ofWritten? w := by
  obtain ⟨hroot, hend⟩ := h.document
  have hread : (ofText details.text.toList).toOption = ofWritten? w := by
    rw [ofText_eq_readDocument, Json.readDocument, Json.toOption_bind, read_written hroot]
    cases ofWritten? w with
    | none => rfl
    | some found => simp [Json.Document.checkEnd, hend]; rfl
  rw [← hread, ofDetails]
  cases ofText details.text.toList <;> rfl

end Settings

end ClusterBroker.Domain
