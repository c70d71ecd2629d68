import RpcBindings.Text.Newline

/-! The template of a Dart file:
for every service a client, a handler and a router, over message classes of another generator. -/
namespace RpcBindings.Target

def dartTemplate : String := Text.ofLines [
  "\x7b% if add_comments %\x7d",
  "// Code generated by \x7b\x7b generator \x7d\x7d. DO NOT EDIT.",
  "// source: \x7b\x7b file.file_name \x7d\x7d",
  "",
  "\x7b% endif %\x7d",
  "import 'dart:typed_data';",
  "",
  "import '\x7b\x7b runtime_import \x7d\x7d';",
  "import '\x7b\x7b messages_import \x7d\x7d';",
  "\x7b% for target in dependency_imports %\x7d",
  "import '\x7b\x7b target \x7d\x7d';",
  "\x7b% endfor %\x7d",
  "\x7b% for service in file.services %\x7d",
  "",
  "abstract class \x7b\x7b service.name \x7d\x7d \x7b",
  "\x7b% for method in service.methods %\x7d",
  "\x7b% if not loop.first %\x7d",
  "",
  "\x7b% endif %\x7d",
  "\x7b% if method.server_streaming %\x7d",
  "  static Stream<\x7b\x7b method.output \x7d\x7d> \x7b\x7b method.method_name \x7d\x7d(\x7b\x7b method.input \x7d\x7d request) \x7b",
  "    return Kalam.instance",
  "        .stream('\x7b\x7b service.route(method) \x7d\x7d', request.writeToBuffer())",
  "        .map((bytes) => \x7b\x7b method.output \x7d\x7d.fromBuffer(bytes));",
  "  \x7d",
  "\x7b% else %\x7d",
  "  static Future<\x7b\x7b method.output \x7d\x7d> \x7b\x7b method.method_name \x7d\x7d(\x7b\x7b method.input \x7d\x7d request) async \x7b",
  "    final bytes = await Kalam.instance.call('\x7b\x7b service.route(method) \x7d\x7d', request.writeToBuffer());",
  "    return \x7b\x7b method.output \x7d\x7d.fromBuffer(bytes);",
  "  \x7d",
  "\x7b% endif %\x7d",
  "\x7b% endfor %\x7d",
  "\x7d",
  "",
  "abstract class \x7b\x7b service.name \x7d\x7dHandler \x7b",
  "\x7b% for method in service.methods %\x7d",
  "\x7b% if method.server_streaming %\x7d",
  "  Stream<\x7b\x7b method.output \x7d\x7d> \x7b\x7b method.method_name \x7d\x7d(\x7b\x7b method.input \x7d\x7d request);",
  "\x7b% else %\x7d",
  "  Future<\x7b\x7b method.output \x7d\x7d> \x7b\x7b method.method_name \x7d\x7d(\x7b\x7b method.input \x7d\x7d request);",
  "\x7b% endif %\x7d",
  "\x7b% endfor %\x7d",
  "\x7d",
  "",
  "class \x7b\x7b service.name \x7d\x7dRouter implements ServiceRouter \x7b",
  "  final \x7b\x7b service.name \x7d\x7dHandler handler;",
  "",
  "  \x7b\x7b service.name \x7d\x7dRouter(this.handler);",
  "",
  "  @override",
  "  Future<void> handle(String method, Uint8List payload, ResponseSink sink) async \x7b",
  "    switch (method) \x7b",
  "\x7b% for method in service.methods %\x7d",
  "      case '\x7b\x7b service.route(method) \x7d\x7d':",
  "        \x7b",
  "          final request = \x7b\x7b method.input \x7d\x7d.fromBuffer(payload);",
  "\x7b% if method.server_streaming %\x7d",
  "          await for (final response in handler.\x7b\x7b method.method_name \x7d\x7d(request)) \x7b",
  "            sink.sendChunk(response.writeToBuffer());",
  "          \x7d",
  "          sink.sendEnd();",
  "\x7b% else %\x7d",
  "          final response = await handler.\x7b\x7b method.method_name \x7d\x7d(request);",
  "          sink.sendUnary(response.writeToBuffer());",
  "\x7b% endif %\x7d",
  "        \x7d",
  "        break;",
  "\x7b% endfor %\x7d",
  "      default:",
  "        sink.sendError('Unknown method: $method');",
  "    \x7d",
  "  \x7d",
  "\x7d",
  "\x7b% endfor %\x7d"]

end RpcBindings.Target
