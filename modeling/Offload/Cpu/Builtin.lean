import Offload.Blocking
import Offload.Cpu.Centroid
import Offload.Cpu.Procedure
import Offload.Cpu.Single

/-!
# Builtin kernels

Kernels that every context of the CPU device can offer. Each asks for all its arguments and checks
their lengths before it stores anything.
-/

namespace Offload.Cpu.Builtin

/-- Declarations of the builtin kernels in the kernel language. -/
def source : String :=
  "\n".intercalate [
    "",
    "/* Builtin kernels of the CPU device. */",
    "",
    "__kernel void fill_f32(__global float* out, float value)",
    "\x7b",
    "    out[get_global_id(0)] = value;",
    "\x7d",
    "",
    "__kernel void axpy_f32(float a, __global const float* x, __global float* y)",
    "\x7b",
    "    const size_t i = get_global_id(0);",
    "    y[i] = a * x[i] + y[i];",
    "\x7d",
    "",
    "__kernel void nearest_centroid_f32(__global const float* data,",
    "                                   __global const float* centroids,",
    "                                   __global int* labels,",
    "                                   uint dim,",
    "                                   uint clusters)",
    "\x7b",
    "    const size_t row = get_global_id(0);",
    "    float best = INFINITY;",
    "    int label = -1;",
    "    for (uint c = 0; c < clusters; c++) \x7b",
    "        float dist = 0.0f;",
    "        for (uint j = 0; j < dim; j++) \x7b",
    "            const float d = data[row * dim + j] - centroids[c * dim + j];",
    "            dist += d * d;",
    "        \x7d",
    "        if (dist < best) \x7b best = dist; label = (int)c; \x7d",
    "    \x7d",
    "    labels[row] = label;",
    "\x7d",
    ""]

/-- Sets the first elements of a buffer to a constant, one for each work item. -/
def fill : Implementation := fun launch => do
  let n ← .lift launch.shape.itemCount
  let out ← .output .f32
  let value ← .scalar .f32
  .ensureLength 0 out.elements.length n
  let touched ← .front out.elements n
  out.store (touched.map fun _ => value)

/-- Adds `a * x` to `y`, element by element, one for each work item. -/
def axpy : Implementation := fun launch => do
  let n ← .lift launch.shape.itemCount
  let a ← .scalar .f32
  let x ← .input .f32
  let y ← .output .f32
  .ensureLength 1 x.length n
  .ensureLength 2 y.elements.length n
  let ys ← .front y.elements n
  let xs ← .front x n
  y.store ((ys.zip xs).map fun (yi, xi) => Single.add yi (Single.mul a xi))

/-- Squared distances of single-precision points. -/
def squared : Centroid.Metric Single.Bits where
  distance := Single.squaredDistance
  less := Single.less
  infinity := Single.infinity

/-- Writes the label of each row: the nearest centroid. There is one row for each point of the first
native axis. A panic leaves the labels that were there before it. -/
def nearestCentroid : Implementation := fun launch => do
  let rows := launch.shape.globalSize 0
  let data ← .input .f32
  let centroids ← .input .f32
  let labels ← .output .i32
  let dim := (← .scalar .u32).toNat
  let clusters := (← .scalar .u32).toNat
  if clusters = 0 ∨ dim = 0 then
    .fail (.kernel "nearest_centroid_f32 needs at least one cluster and one feature")
  else
    match Word.mul? rows dim, Word.mul? clusters dim with
    | some dataLength, some centroidLength => do
      .ensureLength 0 data.length dataLength
      .ensureLength 1 centroids.length centroidLength
      .ensureLength 2 labels.elements.length rows
      let block ← .lift (Blocking.blockSize .f32 rows dim clusters {})
      let _ ← .front labels.elements rows
      let labelled := Centroid.assignBlocks squared ⟨data.toArray, dim⟩ ⟨centroids.toArray, dim⟩
        clusters rows (max block 1)
      labels.store labelled.items
      .finish labelled.panic?
    | _, _ => .fail (.kernel "nearest_centroid_f32 input size overflows")

/-- The builtin kernels by name. -/
def all : List (String × Implementation) :=
  [("fill_f32", fill), ("axpy_f32", axpy), ("nearest_centroid_f32", nearestCentroid)]

end Offload.Cpu.Builtin
