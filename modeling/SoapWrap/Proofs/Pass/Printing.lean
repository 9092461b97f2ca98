import Mathlib.Data.List.Forall2
import SoapWrap.Command.Inspect
import SoapWrap.Proofs.Pass.Emission

/-! The lines that the printed outputs of interfaces consist of. An output is described by what it
holds, and an adapter by its own fingerprint, whatever the printing computes. -/

namespace SoapWrap.Command.Inspect

def column (width : Nat) (s : String) : String := .ofList (s.toList.rightpad width ' ')

inductive PrintsBundle (label : String) (b : Bundle) : List String → Prop
  | intro {fields : List String}
    (hfields : List.Forall₂ (fun (f : WrapperField) line => line =
      "      " ++ column 20 f.name ++ " " ++ column 24 f.declaredType.text ++ " " ++ f.wireName)
      b.wrapper.fields fields) :
    PrintsBundle label b (("    " ++ column 9 label ++ " " ++ b.wrapper.qualifiedName ++ " <" ++
      b.wrapper.elementName ++ ">") :: fields ++
        ["      adapter " ++ b.adapter.name ++ "  " ++ b.adapter.fingerprint])

inductive PrintsOperation (o : OperationOutput) : List String → Prop
  | intro {request response : List String} (hrequest : PrintsBundle "request" o.request request)
    (hresponse : PrintsBundle "response" o.response response) :
    PrintsOperation o ("" :: ("  " ++ o.operation) :: (request ++ response))

inductive PrintsFaults : List Fault → List String → Prop
  | none : PrintsFaults [] []
  | some {f : Fault} {fs : List Fault} {lines : List String}
    (hlines : List.Forall₂ (fun (f : Fault) line => line =
      "  fault " ++ f.name ++ " <" ++ f.payloadType.text ++ ">") (f :: fs) lines) :
    PrintsFaults (f :: fs) ("" :: lines)

inductive PrintsInterface (o : InterfaceOutput) : List String → Prop
  | intro {operations : List (List String)} {faults skipped : List String}
    (hoperations : List.Forall₂ PrintsOperation o.operations operations)
    (hfaults : PrintsFaults o.faults faults)
    (hskipped : List.Forall₂ (fun name line => line = "  ! " ++ name ++ " skipped (overload)")
      o.skipped skipped) :
    PrintsInterface o (("Interface " ++ o.interface ++ " (" ++ o.xmlNamespace ++ ")") ::
      ("  package " ++ o.package) :: (operations.flatten ++ faults ++ skipped ++ [""]))

lemma padEnd_eq_column (width : Nat) (s : String) : padEnd width s = column width s := by
  rw [padEnd, column, List.rightpad, String.ofList_append, String.ofList_toList,
    String.length_toList]

lemma forall₂_map_self {α β : Type} {R : α → β → Prop} {write : α → β} {as : List α}
    (h : ∀ a ∈ as, R a (write a)) : List.Forall₂ R as (as.map write) :=
  List.forall₂_map_right_iff.mpr (List.forall₂_same.mpr h)

lemma prints_bundleLines (label : String) {b : Bundle}
    (h : b.wrapper.fingerprint = b.adapter.fingerprint) :
    PrintsBundle label b (bundleLines label b) := by
  rw [bundleLines, h, padEnd_eq_column, ← List.cons_append]
  refine .intro (forall₂_map_self fun f _ => ?_)
  rw [fieldLine, padEnd_eq_column, padEnd_eq_column]

lemma prints_faultLines (fs : List Fault) :
    PrintsFaults fs (if fs.isEmpty then [] else "" :: fs.map faultLine) := by
  cases fs with
  | nil => exact .none
  | cons f rest => exact .some (forall₂_map_self fun f _ => rfl)

lemma prints_interfaceLines {o : InterfaceOutput}
    (h : ∀ b ∈ o.bundles, b.wrapper.fingerprint = b.adapter.fingerprint) :
    PrintsInterface o (interfaceLines o) := by
  rw [interfaceLines, List.flatMap_def]
  refine .intro (forall₂_map_self fun op hop => ?_) (prints_faultLines o.faults)
    (forall₂_map_self fun name _ => rfl)
  have hbundle : ∀ b ∈ op.bundles, b.wrapper.fingerprint = b.adapter.fingerprint :=
    fun b hb => h b (List.mem_flatMap.mpr ⟨op, hop, hb⟩)
  exact .intro (prints_bundleLines "request" (hbundle op.request List.mem_cons_self))
    (prints_bundleLines "response" (hbundle op.response (List.mem_cons_of_mem _ List.mem_cons_self)))

end SoapWrap.Command.Inspect
