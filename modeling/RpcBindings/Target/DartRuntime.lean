import RpcBindings.Text.Newline

/-! The support file that generated Dart code runs on. -/
namespace RpcBindings.Target

def dartRuntime : String := Text.ofLines [
  "// Kalam runtime for Dart: framed RPC over a Unix domain socket.",
  "//",
  "// Frame layout (big endian):",
  "//   version u8 | requestId u32 | frameType u8 | methodLen u32 | method",
  "//   | payloadLen u32 | payload",
  "",
  "import 'dart:async';",
  "import 'dart:convert';",
  "import 'dart:io';",
  "import 'dart:typed_data';",
  "",
  "const int protocolVersion = 1;",
  "const int frameTypeUnary = 0;",
  "const int frameTypeStreamChunk = 1;",
  "const int frameTypeStreamEnd = 2;",
  "const int frameTypeError = 3;",
  "const int headerSize = 14;",
  "",
  "class Frame \x7b",
  "  final int version;",
  "  final int requestId;",
  "  final int frameType;",
  "  final String method;",
  "  final Uint8List payload;",
  "",
  "  Frame(this.version, this.requestId, this.frameType, this.method, this.payload);",
  "\x7d",
  "",
  "Uint8List encodeFrame(int requestId, int frameType, String method, List<int> payload) \x7b",
  "  final methodBytes = utf8.encode(method);",
  "  final total = headerSize + methodBytes.length + payload.length;",
  "  final buffer = Uint8List(total);",
  "  final view = ByteData.sublistView(buffer);",
  "",
  "  var offset = 0;",
  "  view.setUint8(offset, protocolVersion);",
  "  offset += 1;",
  "  view.setUint32(offset, requestId, Endian.big);",
  "  offset += 4;",
  "  view.setUint8(offset, frameType);",
  "  offset += 1;",
  "  view.setUint32(offset, methodBytes.length, Endian.big);",
  "  offset += 4;",
  "  buffer.setRange(offset, offset + methodBytes.length, methodBytes);",
  "  offset += methodBytes.length;",
  "  view.setUint32(offset, payload.length, Endian.big);",
  "  offset += 4;",
  "  buffer.setRange(offset, offset + payload.length, payload);",
  "",
  "  return buffer;",
  "\x7d",
  "",
  "class FrameReader \x7b",
  "  final BytesBuilder _pending = BytesBuilder(copy: false);",
  "  Uint8List _buffer = Uint8List(0);",
  "  int _consumed = 0;",
  "",
  "  void add(List<int> chunk) \x7b",
  "    _pending.add(_buffer.sublist(_consumed));",
  "    _pending.add(chunk);",
  "    _buffer = _pending.takeBytes();",
  "    _consumed = 0;",
  "  \x7d",
  "",
  "  Frame? tryReadFrame() \x7b",
  "    final available = _buffer.length - _consumed;",
  "    if (available < headerSize) return null;",
  "",
  "    final view = ByteData.sublistView(_buffer);",
  "    final start = _consumed;",
  "    final version = view.getUint8(start);",
  "    final requestId = view.getUint32(start + 1, Endian.big);",
  "    final frameType = view.getUint8(start + 5);",
  "    final methodLen = view.getUint32(start + 6, Endian.big);",
  "",
  "    final neededForPayloadLen = headerSize + methodLen;",
  "    if (available < neededForPayloadLen) return null;",
  "",
  "    final payloadLen = view.getUint32(start + 10 + methodLen, Endian.big);",
  "    final totalLen = neededForPayloadLen + payloadLen;",
  "    if (available < totalLen) return null;",
  "",
  "    final methodStart = start + 10;",
  "    final method = utf8.decode(_buffer.sublist(methodStart, methodStart + methodLen));",
  "    final payloadStart = start + neededForPayloadLen;",
  "    final payload = Uint8List.fromList(_buffer.sublist(payloadStart, payloadStart + payloadLen));",
  "",
  "    _consumed += totalLen;",
  "    return Frame(version, requestId, frameType, method, payload);",
  "  \x7d",
  "\x7d",
  "",
  "class KalamException implements Exception \x7b",
  "  final String method;",
  "  final String message;",
  "",
  "  KalamException(this.method, this.message);",
  "",
  "  @override",
  "  String toString() => 'KalamException($method): $message';",
  "\x7d",
  "",
  "void _checkError(Frame frame) \x7b",
  "  if (frame.frameType == frameTypeError) \x7b",
  "    throw KalamException(frame.method, utf8.decode(frame.payload, allowMalformed: true));",
  "  \x7d",
  "\x7d",
  "",
  "// Client",
  "",
  "class Kalam \x7b",
  "  static final Kalam instance = Kalam._();",
  "  Kalam._();",
  "",
  "  String? _socketPath;",
  "  Socket? _socket;",
  "  Future<Socket>? _connecting;",
  "  FrameReader? _reader;",
  "  int _nextRequestId = 1;",
  "  final Map<int, Completer<Frame>> _pendingCalls = \x7b\x7d;",
  "  final Map<int, StreamController<Uint8List>> _pendingStreams = \x7b\x7d;",
  "",
  "  void useSockets(String path) \x7b",
  "    _socketPath = path;",
  "    close();",
  "  \x7d",
  "",
  "  Future<Socket> _ensureConnected() \x7b",
  "    final socket = _socket;",
  "    if (socket != null) return Future.value(socket);",
  "    return _connecting ??= _connect();",
  "  \x7d",
  "",
  "  Future<Socket> _connect() async \x7b",
  "    final path = _socketPath;",
  "    if (path == null) \x7b",
  "      throw StateError('Kalam not initialized. Call useSockets() first.');",
  "    \x7d",
  "    final address = InternetAddress(path, type: InternetAddressType.unix);",
  "    final socket = await Socket.connect(address, 0);",
  "    _socket = socket;",
  "    _reader = FrameReader();",
  "    _connecting = null;",
  "",
  "    socket.listen(",
  "      (chunk) \x7b",
  "        final reader = _reader;",
  "        if (reader == null) return;",
  "        reader.add(chunk);",
  "        while (true) \x7b",
  "          final frame = reader.tryReadFrame();",
  "          if (frame == null) break;",
  "          _dispatch(frame);",
  "        \x7d",
  "      \x7d,",
  "      onError: (Object error) => _fail(error),",
  "      onDone: () => _fail(StateError('Connection lost')),",
  "      cancelOnError: true,",
  "    );",
  "    return socket;",
  "  \x7d",
  "",
  "  void _dispatch(Frame frame) \x7b",
  "    final id = frame.requestId;",
  "",
  "    final completer = _pendingCalls.remove(id);",
  "    if (completer != null) \x7b",
  "      completer.complete(frame);",
  "      return;",
  "    \x7d",
  "",
  "    final controller = _pendingStreams[id];",
  "    if (controller == null) return;",
  "    switch (frame.frameType) \x7b",
  "      case frameTypeStreamEnd:",
  "        _pendingStreams.remove(id);",
  "        controller.close();",
  "        break;",
  "      case frameTypeError:",
  "        _pendingStreams.remove(id);",
  "        controller.addError(",
  "            KalamException(frame.method, utf8.decode(frame.payload, allowMalformed: true)));",
  "        controller.close();",
  "        break;",
  "      default:",
  "        controller.add(frame.payload);",
  "    \x7d",
  "  \x7d",
  "",
  "  void _fail(Object error) \x7b",
  "    _socket?.destroy();",
  "    _socket = null;",
  "    _reader = null;",
  "    _connecting = null;",
  "",
  "    final calls = Map.of(_pendingCalls);",
  "    final streams = Map.of(_pendingStreams);",
  "    _pendingCalls.clear();",
  "    _pendingStreams.clear();",
  "    for (final c in calls.values) \x7b",
  "      if (!c.isCompleted) c.completeError(error);",
  "    \x7d",
  "    for (final s in streams.values) \x7b",
  "      s.addError(error);",
  "      s.close();",
  "    \x7d",
  "  \x7d",
  "",
  "  Future<Uint8List> call(String method, List<int> payload) async \x7b",
  "    final socket = await _ensureConnected();",
  "    final requestId = _nextRequestId++;",
  "    final completer = Completer<Frame>();",
  "    _pendingCalls[requestId] = completer;",
  "",
  "    socket.add(encodeFrame(requestId, frameTypeUnary, method, payload));",
  "",
  "    final response = await completer.future;",
  "    _checkError(response);",
  "    return response.payload;",
  "  \x7d",
  "",
  "  Stream<Uint8List> stream(String method, List<int> payload) \x7b",
  "    final controller = StreamController<Uint8List>();",
  "    _ensureConnected().then((socket) \x7b",
  "      final requestId = _nextRequestId++;",
  "      _pendingStreams[requestId] = controller;",
  "      socket.add(encodeFrame(requestId, frameTypeUnary, method, payload));",
  "    \x7d, onError: (Object error) \x7b",
  "      controller.addError(error);",
  "      controller.close();",
  "    \x7d);",
  "    return controller.stream;",
  "  \x7d",
  "",
  "  void close() \x7b",
  "    if (_socket != null || _connecting != null) \x7b",
  "      _fail(StateError('Connection closed'));",
  "    \x7d",
  "  \x7d",
  "\x7d",
  "",
  "// Server",
  "",
  "abstract class ServiceRouter \x7b",
  "  Future<void> handle(String method, Uint8List payload, ResponseSink sink);",
  "\x7d",
  "",
  "class ResponseSink \x7b",
  "  final Socket _socket;",
  "  final int _requestId;",
  "  final String _method;",
  "",
  "  ResponseSink(this._socket, this._requestId, this._method);",
  "",
  "  void sendUnary(List<int> payload) => _send(frameTypeUnary, payload);",
  "",
  "  void sendChunk(List<int> payload) => _send(frameTypeStreamChunk, payload);",
  "",
  "  void sendEnd() => _send(frameTypeStreamEnd, const <int>[]);",
  "",
  "  void sendError(String message) => _send(frameTypeError, utf8.encode(message));",
  "",
  "  void _send(int frameType, List<int> payload) \x7b",
  "    _socket.add(encodeFrame(_requestId, frameType, _method, payload));",
  "  \x7d",
  "\x7d",
  "",
  "class KalamServer \x7b",
  "  static final KalamServer instance = KalamServer._();",
  "  KalamServer._();",
  "",
  "  ServerSocket? _server;",
  "",
  "  Future<void> serve(String path, ServiceRouter router) async \x7b",
  "    final file = File(path);",
  "    if (file.existsSync()) file.deleteSync();",
  "",
  "    final address = InternetAddress(path, type: InternetAddressType.unix);",
  "    final server = await ServerSocket.bind(address, 0);",
  "    _server = server;",
  "    print('Kalam server listening on $path');",
  "",
  "    server.listen((client) => _handleClient(client, router));",
  "  \x7d",
  "",
  "  void _handleClient(Socket client, ServiceRouter router) \x7b",
  "    final reader = FrameReader();",
  "    client.listen(",
  "      (chunk) \x7b",
  "        reader.add(chunk);",
  "        while (true) \x7b",
  "          final request = reader.tryReadFrame();",
  "          if (request == null) break;",
  "          final sink = ResponseSink(client, request.requestId, request.method);",
  "          router.handle(request.method, request.payload, sink).catchError((Object e) \x7b",
  "            sink.sendError(e.toString());",
  "          \x7d);",
  "        \x7d",
  "      \x7d,",
  "      onDone: () => client.destroy(),",
  "      onError: (Object _) => client.destroy(),",
  "      cancelOnError: true,",
  "    );",
  "  \x7d",
  "",
  "  Future<void> close() async \x7b",
  "    await _server?.close();",
  "    _server = null;",
  "  \x7d",
  "\x7d"]

end RpcBindings.Target
