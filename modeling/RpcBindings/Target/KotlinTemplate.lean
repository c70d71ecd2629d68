import RpcBindings.Text.Newline

/-! The template of a Kotlin file:
enums and data classes, then for every service a client object, a handler interface and a router. -/
namespace RpcBindings.Target

def kotlinTemplate : String := Text.ofLines [
  "\x7b% if add_comments %\x7d",
  "// Code generated by \x7b\x7b generator \x7d\x7d. DO NOT EDIT.",
  "// source: \x7b\x7b file.file_name \x7d\x7d",
  "",
  "\x7b% endif %\x7d",
  "package \x7b\x7b file.package_name \x7d\x7d",
  "",
  "\x7b% for target in type_imports %\x7d",
  "import \x7b\x7b target \x7d\x7d",
  "\x7b% endfor %\x7d",
  "\x7b% if file.services %\x7d",
  "import com.kalam.Kalam",
  "import com.kalam.ResponseSink",
  "import com.kalam.ServiceRouter",
  "import kotlinx.coroutines.flow.Flow",
  "import kotlinx.coroutines.flow.map",
  "import kotlinx.serialization.ExperimentalSerializationApi",
  "import kotlinx.serialization.decodeFromByteArray",
  "import kotlinx.serialization.encodeToByteArray",
  "import kotlinx.serialization.protobuf.ProtoBuf",
  "\x7b% endif %\x7d",
  "\x7b% if file.enums or file.messages %\x7d",
  "import kotlinx.serialization.Serializable",
  "import kotlinx.serialization.protobuf.ProtoNumber",
  "\x7b% endif %\x7d",
  "\x7b% for enum in file.enums %\x7d",
  "",
  "@Serializable",
  "enum class \x7b\x7b enum.name \x7d\x7d \x7b",
  "\x7b% for value in enum.values %\x7d",
  "    @ProtoNumber(\x7b\x7b value.number \x7d\x7d) \x7b\x7b value.name \x7d\x7d,",
  "\x7b% else %\x7d",
  "    UNKNOWN,",
  "\x7b% endfor %\x7d",
  "\x7d",
  "\x7b% endfor %\x7d",
  "\x7b% for message in file.messages %\x7d",
  "",
  "@Serializable",
  "\x7b% if message.fields %\x7d",
  "data class \x7b\x7b message.name \x7d\x7d(",
  "\x7b% for field in message.fields %\x7d",
  "    @ProtoNumber(\x7b\x7b field.proto_number \x7d\x7d) val \x7b\x7b field.name \x7d\x7d: \x7b\x7b field.type \x7d\x7d = \x7b\x7b field.default_value \x7d\x7d,",
  "\x7b% endfor %\x7d",
  ")",
  "\x7b% else %\x7d",
  "class \x7b\x7b message.name \x7d\x7d",
  "\x7b% endif %\x7d",
  "\x7b% endfor %\x7d",
  "\x7b% for service in file.services %\x7d",
  "",
  "@OptIn(ExperimentalSerializationApi::class)",
  "object \x7b\x7b service.name \x7d\x7d \x7b",
  "\x7b% for method in service.methods %\x7d",
  "\x7b% if not loop.first %\x7d",
  "",
  "\x7b% endif %\x7d",
  "\x7b% if method.server_streaming %\x7d",
  "    fun \x7b\x7b method.method_name \x7d\x7d(request: \x7b\x7b method.input \x7d\x7d): Flow<\x7b\x7b method.output \x7d\x7d> =",
  "        Kalam.instance.stream(\"\x7b\x7b service.route(method) \x7d\x7d\", ProtoBuf.encodeToByteArray(request))",
  "            .map \x7b ProtoBuf.decodeFromByteArray<\x7b\x7b method.output \x7d\x7d>(it) \x7d",
  "\x7b% else %\x7d",
  "    suspend fun \x7b\x7b method.method_name \x7d\x7d(request: \x7b\x7b method.input \x7d\x7d): \x7b\x7b method.output \x7d\x7d \x7b",
  "        val bytes = Kalam.instance.call(\"\x7b\x7b service.route(method) \x7d\x7d\", ProtoBuf.encodeToByteArray(request))",
  "        return ProtoBuf.decodeFromByteArray(bytes)",
  "    \x7d",
  "\x7b% endif %\x7d",
  "\x7b% endfor %\x7d",
  "\x7d",
  "",
  "interface \x7b\x7b service.name \x7d\x7dHandler \x7b",
  "\x7b% for method in service.methods %\x7d",
  "\x7b% if method.server_streaming %\x7d",
  "    fun \x7b\x7b method.method_name \x7d\x7d(request: \x7b\x7b method.input \x7d\x7d): Flow<\x7b\x7b method.output \x7d\x7d>",
  "\x7b% else %\x7d",
  "    suspend fun \x7b\x7b method.method_name \x7d\x7d(request: \x7b\x7b method.input \x7d\x7d): \x7b\x7b method.output \x7d\x7d",
  "\x7b% endif %\x7d",
  "\x7b% endfor %\x7d",
  "\x7d",
  "",
  "@OptIn(ExperimentalSerializationApi::class)",
  "class \x7b\x7b service.name \x7d\x7dRouter(private val handler: \x7b\x7b service.name \x7d\x7dHandler) : ServiceRouter \x7b",
  "    override suspend fun handle(method: String, payload: ByteArray, sink: ResponseSink) \x7b",
  "        when (method) \x7b",
  "\x7b% for method in service.methods %\x7d",
  "            \"\x7b\x7b service.route(method) \x7d\x7d\" -> \x7b",
  "                val request = ProtoBuf.decodeFromByteArray<\x7b\x7b method.input \x7d\x7d>(payload)",
  "\x7b% if method.server_streaming %\x7d",
  "                handler.\x7b\x7b method.method_name \x7d\x7d(request).collect \x7b",
  "                    sink.sendChunk(ProtoBuf.encodeToByteArray(it))",
  "                \x7d",
  "                sink.sendEnd()",
  "\x7b% else %\x7d",
  "                sink.sendUnary(ProtoBuf.encodeToByteArray(handler.\x7b\x7b method.method_name \x7d\x7d(request)))",
  "\x7b% endif %\x7d",
  "            \x7d",
  "\x7b% endfor %\x7d",
  "            else -> sink.sendError(\"Unknown method: $method\")",
  "        \x7d",
  "    \x7d",
  "\x7d",
  "\x7b% endfor %\x7d"]

end RpcBindings.Target
