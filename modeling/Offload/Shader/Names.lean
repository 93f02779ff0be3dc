import Offload.Shader.Letter

/-!
# Names of shaders

Which names a shader may declare, and which it may use without declaring them. Some words of types
can be declared, but such a name is only found where no type and no value is asked for: as the
target of an assignment or as a call that is a statement.
-/

namespace Offload.Shader

/-- Words that begin a declaration, a statement or a value. -/
def keywords : List String :=
  ["alias", "bitcast", "break", "case", "const", "continue", "continuing", "default", "discard",
   "else", "enable", "fallthrough", "false", "fn", "for", "if", "let", "loop", "override", "return",
   "struct", "switch", "true", "type", "var", "while"]

/-- Words that are kept for types. -/
def typeWords : List String :=
  ["array", "atomic", "binding_array", "bool", "f16", "f32", "i32", "i64", "mat2x2", "mat2x3",
   "mat2x4", "mat3x2", "mat3x3", "mat3x4", "mat4x2", "mat4x3", "mat4x4", "ptr", "sampler",
   "sampler_comparison", "texture_1d", "texture_2d", "texture_2d_array", "texture_3d",
   "texture_cube", "texture_cube_array", "texture_depth_2d", "texture_depth_2d_array",
   "texture_depth_cube", "texture_depth_cube_array", "texture_depth_multisampled_2d",
   "texture_external", "texture_multisampled_2d", "texture_storage_1d", "texture_storage_2d",
   "texture_storage_2d_array", "texture_storage_3d", "u32", "u64", "vec2", "vec3", "vec4"]

/-- Words that are kept for later. -/
def reservedWords : List String :=
  ["CompileShader", "ComputeShader", "DomainShader", "GeometryShader", "Hullshader", "NULL", "Self",
   "abstract", "active", "alignas", "alignof", "as", "asm", "asm_fragment", "async", "attribute",
   "auto", "await", "become", "cast", "catch", "class", "co_await", "co_return", "co_yield",
   "coherent", "column_major", "common", "compile", "compile_fragment", "concept", "const_cast",
   "consteval", "constexpr", "constinit", "crate", "debugger", "decltype", "delete", "demote",
   "demote_to_helper", "do", "dynamic_cast", "enum", "explicit", "export", "extends", "extern",
   "external", "filter", "final", "finally", "friend", "from", "fxgroup", "get", "goto",
   "groupshared", "handle", "highp", "impl", "implements", "import", "inline", "inout",
   "instanceof", "interface", "layout", "lowp", "macro", "macro_rules", "match", "mediump", "meta",
   "mod", "module", "move", "mut", "mutable", "namespace", "new", "nil", "noexcept", "noinline",
   "nointerpolation", "noperspective", "null", "nullptr", "of", "operator", "package", "packoffset",
   "partition", "pass", "patch", "pixelfragment", "precise", "precision", "premerge", "priv",
   "protected", "pub", "public", "readonly", "ref", "regardless", "register", "reinterpret_cast",
   "requires", "resource", "restrict", "self", "set", "shared", "signed", "sizeof", "smooth",
   "snorm", "static", "static_assert", "static_cast", "std", "subroutine", "super", "target",
   "template", "this", "thread_local", "throw", "trait", "try", "typedef", "typeid", "typename",
   "typeof", "union", "unless", "unorm", "unsafe", "unsized", "use", "using", "varying", "virtual",
   "volatile", "wgsl", "where", "with", "writeonly", "yield"]

/-- A name that can be declared: an identifier that is no kept word, not `_`, and does not begin with
two underscores. -/
def isDeclarable (name : String) : Bool :=
  isWord name.toList && name != "_" && !name.startsWith "__" && !keywords.contains name &&
    !typeWords.contains name && !reservedWords.contains name

/-- Functions that every shader can call. -/
def builtinFunctions : List String :=
  ["abs", "acos", "acosh", "all", "any", "arrayLength", "asin", "asinh", "atan", "atan2", "atanh",
   "atomicAdd", "atomicAnd", "atomicCompareExchangeWeak", "atomicExchange", "atomicLoad",
   "atomicMax", "atomicMin", "atomicOr", "atomicStore", "atomicSub", "atomicXor", "ceil", "clamp",
   "cos", "cosh", "countLeadingZeros", "countOneBits", "countTrailingZeros", "cross", "degrees",
   "determinant", "distance", "dot", "exp", "exp2", "extractBits", "faceForward",
   "firstLeadingBit", "firstTrailingBit", "floor", "fma", "fract", "frexp", "insertBits",
   "inverseSqrt", "ldexp", "length", "log", "log2", "max", "min", "mix", "modf", "normalize",
   "pow", "radians", "reflect", "refract", "reverseBits", "round", "saturate", "select", "sign",
   "sin", "sinh", "smoothstep", "sqrt", "step", "storageBarrier", "tan", "tanh", "transpose",
   "trunc", "workgroupBarrier"]

def integerTypes : List String := ["i32", "i64", "u32", "u64"]

def floatTypes : List String := ["f32", "f64"]

def scalarTypes : List String := "bool" :: floatTypes ++ integerTypes

/-- Words that only stand in shaders with values of 64 bits. -/
def wideTypes : List String := ["f64", "i64", "u64"]

/-- Vector types with their element type in the name. -/
def vectorTypes : List String :=
  ["vec2f", "vec2i", "vec2u", "vec3f", "vec3i", "vec3u", "vec4f", "vec4i", "vec4u"]

/-- Vector types that take an element type. -/
def genericVectorTypes : List String := ["vec2", "vec3", "vec4"]

/-- Matrix types, which take an element type. -/
def matrixTypes : List String :=
  ["mat2x2", "mat2x3", "mat2x4", "mat3x2", "mat3x3", "mat3x4", "mat4x2", "mat4x3", "mat4x4"]

/-- Matrix types with their element type in the name. -/
def namedMatrixTypes : List String := matrixTypes.map (· ++ "f")

/-- Vector and matrix types with elements of 16 bits. Their words mean nothing else where a type or
value is asked for, but no shader has values of them. -/
def halfTypes : List String := (genericVectorTypes ++ matrixTypes).map (· ++ "h")

/-- Textures that take the type of what is sampled. -/
def sampledTypes : List String :=
  ["texture_1d", "texture_2d", "texture_2d_array", "texture_3d", "texture_cube",
   "texture_cube_array", "texture_multisampled_2d"]

/-- Resources that are written without arguments. -/
def plainResourceTypes : List String :=
  ["sampler", "sampler_comparison", "texture_depth_2d", "texture_depth_2d_array",
   "texture_depth_cube", "texture_depth_cube_array", "texture_depth_multisampled_2d",
   "texture_external"]

/-- Types that are written with arguments. -/
def genericTypes : List String :=
  "array" :: "atomic" :: genericVectorTypes ++ matrixTypes ++ sampledTypes

/-- Words that make a value where one is asked for, whatever is declared. -/
def constructors : List String :=
  "array" :: scalarTypes ++ vectorTypes ++ genericVectorTypes ++ matrixTypes ++ namedMatrixTypes

/-- Words that mean a type where one is asked for, whatever is declared. -/
def isTypeWord (word : String) : Bool :=
  constructors.contains word || halfTypes.contains word || genericTypes.contains word ||
    plainResourceTypes.contains word

/-- Words that stand for a whole number without a sign: how rays meet what they hit. Where a value
is asked for, no declaration hides them. -/
def rayNumbers : List (String × Nat) :=
  [("RAY_FLAG_NONE", 0x0), ("RAY_FLAG_FORCE_OPAQUE", 0x1), ("RAY_FLAG_FORCE_NO_OPAQUE", 0x2),
   ("RAY_FLAG_TERMINATE_ON_FIRST_HIT", 0x4), ("RAY_FLAG_SKIP_CLOSEST_HIT_SHADER", 0x8),
   ("RAY_FLAG_CULL_BACK_FACING", 0x10), ("RAY_FLAG_CULL_FRONT_FACING", 0x20),
   ("RAY_FLAG_CULL_OPAQUE", 0x40), ("RAY_FLAG_CULL_NO_OPAQUE", 0x80),
   ("RAY_FLAG_SKIP_TRIANGLES", 0x100), ("RAY_FLAG_SKIP_AABBS", 0x200),
   ("RAY_QUERY_INTERSECTION_NONE", 0), ("RAY_QUERY_INTERSECTION_TRIANGLE", 1),
   ("RAY_QUERY_INTERSECTION_GENERATED", 2), ("RAY_QUERY_INTERSECTION_AABB", 3)]

end Offload.Shader
