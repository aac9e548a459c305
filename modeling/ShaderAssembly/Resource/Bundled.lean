import ShaderAssembly.Resource.Table
import ShaderAssembly.Text.Lines

/-!
# Bundled resources

Three small resources come with the library. Their labels lie in a folder of their own, so that no
file of a directory can have one of them as its name.
-/

namespace ShaderAssembly

structure BundledResource where
  label : String
  lines : List String

def BundledResource.text (resource : BundledResource) : String := Text.ofLines resource.lines

/-- Packing a color into a word and back, and its linear form. -/
def colorResource : BundledResource where
  label := "sasm/color.glsl"
  lines :=
    ["// Color packing helpers",
     "uint sasm_pack_color(vec4 c)",
     "\x7b",
     "  uvec4 v = uvec4(clamp(c, 0.0, 1.0) * 255.0 + 0.5);",
     "  return (v.r << 24u) | (v.g << 16u) | (v.b << 8u) | v.a;",
     "\x7d",
     "",
     "vec4 sasm_unpack_color(uint p)",
     "\x7b",
     "  return vec4(float((p >> 24u) & 0xFFu),",
     "              float((p >> 16u) & 0xFFu),",
     "              float((p >> 8u) & 0xFFu),",
     "              float(p & 0xFFu)) / 255.0;",
     "\x7d",
     "",
     "vec3 sasm_srgb_to_linear(vec3 c)",
     "\x7b",
     "  return mix(c / 12.92, pow((c + 0.055) / 1.055, vec3(2.4)), step(0.04045, c));",
     "\x7d"]

/-- A triangle that covers the screen, from the number of a vertex. -/
def fullscreenResource : BundledResource where
  label := "sasm/fullscreen.glsl"
  lines :=
    ["// Fullscreen triangle from gl_VertexID, no vertex buffer needed",
     "vec2 sasm_fullscreen_position(int vertex_id)",
     "\x7b",
     "  return vec2(float((vertex_id & 1) << 2) - 1.0,",
     "              float((vertex_id & 2) << 1) - 1.0);",
     "\x7d",
     "",
     "vec2 sasm_fullscreen_uv(int vertex_id)",
     "\x7b",
     "  return 0.5 * sasm_fullscreen_position(vertex_id) + 0.5;",
     "\x7d"]

/-- Small functions on numbers, and the circle constant. -/
def mathResource : BundledResource where
  label := "sasm/math.glsl"
  lines :=
    ["// Small math helpers",
     "#ifndef SASM_PI",
     "#define SASM_PI 3.14159265358979323846",
     "#endif",
     "",
     "float sasm_saturate(float x)",
     "\x7b",
     "  return clamp(x, 0.0, 1.0);",
     "\x7d",
     "",
     "float sasm_remap(float x, float in_min, float in_max, float out_min, float out_max)",
     "\x7b",
     "  return out_min + (x - in_min) * (out_max - out_min) / (in_max - in_min);",
     "\x7d"]

/-- The bundled resources, in the order of their labels. -/
def bundledResources : List BundledResource :=
  [colorResource, fullscreenResource, mathResource]

def ResourceTable.bundled : ResourceTable :=
  bundledResources.foldl (fun table r => table.insert r.label r.text) .empty

end ShaderAssembly
