import PageExtract.Transform.Basic

/-! The transforms of node sets reach into lists, and refuse whatever is neither a list nor a node
set. -/
namespace PageExtract.Transform

mutual

def onNodes (f : NodeSet → Except TransformError Datum) : Datum → Except TransformError Datum
  | .list items => (onEachNodes f items).map .list
  | .nodes s => f s
  | .string s => .error (.mismatch "node set" (Datum.string s).kind)
  | .number n => .error (.mismatch "node set" (Datum.number n).kind)
  | .boolean b => .error (.mismatch "node set" (Datum.boolean b).kind)
  | .null => .error (.mismatch "node set" Datum.null.kind)
  | .undefined => .error (.mismatch "node set" Datum.undefined.kind)

def onEachNodes (f : NodeSet → Except TransformError Datum) :
    List Datum → Except TransformError (List Datum)
  | [] => .ok []
  | d :: rest =>
    match onNodes f d with
    | .error e => .error e
    | .ok first => (onEachNodes f rest).map (first :: ·)

end

def text : Transform := fun input _ => onNodes (fun s => .ok (.string s.text)) input

def markup : Transform := fun input _ =>
  onNodes (fun s => .ok ((s.markup?.map Datum.string).getD .null)) input

def attributeValue : Transform := fun input args =>
  match Arguments.get args 0 with
  | .string name => onNodes (fun s => .ok (((s.attribute? name).map Datum.string).getD .undefined)) input
  | given => .error (.invalidArgument 0 (.attributeName given))

def toArray : Transform := fun input _ =>
  onNodes (fun s => .ok (.list (s.split.map .nodes))) input

def find : Transform := fun input args =>
  match Arguments.get args 0 with
  | .string selector =>
    onNodes (fun s => ((s.query selector).map Datum.nodes).mapError .selector) input
  | given => .error (.invalidArgument 0 (.selectorText given))

end PageExtract.Transform
